import Mathlib.Data.Bool.AllAny
import Mathlib.Tactic.Common
import Calculator.Text.Quoted

/-!
# What quoted texts are made of

* Quoted text is printable throughout (`isPrintable_of_mem_quoteChars`), so it stays on its line.
* One character in quotation marks is twelve characters at most (`length_quoteChars_singleton`), and
  it has no bracket and backslash both (`bracket_or_backslash`).
* A text that needs no escape stands between apostrophes as it is (`quoteChars_of_unescaped`).
-/

namespace Calculator.Text

/-! ## Printable characters -/

/-- The letters and digits that stand behind the backslash of an escape. -/
def escapeSigns : List Char := "nrtxuU0123456789abcdef".toList

/-- A code point is written with them. -/
lemma mem_escapeSigns_of_mem_hexDigits {width n : Nat} {c : Char} (h : c ∈ hexDigits width n) :
    c ∈ escapeSigns := by
  induction width generalizing n with
  | zero => cases h
  | succ width ih =>
      have all : ∀ k < 16, Nat.digitChar k ∈ escapeSigns := by decide
      rcases List.mem_append.mp h with front | last
      · exact ih front
      · rw [List.mem_singleton.mp last]
        exact all _ (Nat.mod_lt n (by decide))

/-- What an escape of a character is made of: the character itself, where it is shown, and otherwise
a backslash with letters and digits behind it. -/
lemma mem_escape {quote c d : Char} (h : d ∈ escape quote c) :
    d = c ∧ (c = quote ∨ c = backslash ∨ isPrintable c = true) ∨ d = backslash ∨
      d ∈ escapeSigns := by
  have escaped {tail : List Char} (signs : ∀ x ∈ tail, x ∈ escapeSigns)
      (h : d ∈ backslash :: tail) : d = backslash ∨ d ∈ escapeSigns :=
    (List.mem_cons.mp h).imp id (signs d)
  have coded {letter : Char} {width : Nat} (first : letter ∈ escapeSigns) :
      ∀ x ∈ letter :: hexDigits width c.toNat, x ∈ escapeSigns :=
    List.forall_mem_cons.mpr ⟨first, fun x hx => mem_escapeSigns_of_mem_hexDigits hx⟩
  unfold escape at h
  split_ifs at h with mark newline carriage tab printable short long
  · rcases List.mem_cons.mp h with rfl | h
    · exact Or.inr (Or.inl rfl)
    · rw [List.mem_singleton.mp h]
      exact Or.inl ⟨rfl, mark.imp id Or.inl⟩
  · exact Or.inr (escaped (List.all_iff_forall_prop.mp (by decide)) h)
  · exact Or.inr (escaped (List.all_iff_forall_prop.mp (by decide)) h)
  · exact Or.inr (escaped (List.all_iff_forall_prop.mp (by decide)) h)
  · rw [List.mem_singleton.mp h]
    exact Or.inl ⟨rfl, Or.inr (Or.inr printable)⟩
  · exact Or.inr (escaped (coded (by decide)) h)
  · exact Or.inr (escaped (coded (by decide)) h)
  · exact Or.inr (escaped (coded (by decide)) h)

/-- The mark is one of the two quotation marks. -/
lemma mark_eq (text : List Char) : mark text = apostrophe ∨ mark text = doubleQuote := by
  unfold mark
  split_ifs
  · exact Or.inr rfl
  · exact Or.inl rfl

/-- The mark is printable. -/
lemma isPrintable_mark (text : List Char) : isPrintable (mark text) = true := by
  rcases mark_eq text with h | h <;> rw [h] <;> decide

/-- What a quoted text is made of: the mark and the escapes of its characters. -/
lemma mem_quoteChars {text : List Char} {d : Char} (h : d ∈ quoteChars text) :
    d = mark text ∨ ∃ c ∈ text, d ∈ escape (mark text) c := by
  simp only [quoteChars, List.cons_append, List.mem_cons, List.mem_append, List.mem_flatMap] at h
  tauto

/-- **Quoted text is printable throughout.** -/
theorem isPrintable_of_mem_quoteChars {text : List Char} {d : Char} (h : d ∈ quoteChars text) :
    isPrintable d = true := by
  have signs : ∀ d ∈ escapeSigns, isPrintable d = true := List.all_iff_forall_prop.mp (by decide)
  rcases mem_quoteChars h with rfl | ⟨c, -, hescape⟩
  · exact isPrintable_mark text
  · rcases mem_escape hescape with ⟨rfl, rfl | rfl | printable⟩ | rfl | sign
    · exact isPrintable_mark text
    · decide
    · exact printable
    · decide
    · exact signs d sign

/-! ## One character -/

/-- An escape takes ten characters at most. -/
lemma length_escape_le (quote c : Char) : (escape quote c).length ≤ 10 := by
  unfold escape
  split_ifs <;> simp

/-- One character in quotation marks takes twelve characters at most. -/
lemma length_quoteChars_singleton (c : Char) : (quoteChars [c]).length ≤ 12 := by
  have inside := length_escape_le (mark [c]) c
  simp only [quoteChars, List.flatMap_cons, List.flatMap_nil, List.append_nil, List.length_cons,
    List.length_append, List.length_nil]
  omega

/-- One character in quotation marks has no bracket and backslash both. -/
lemma bracket_or_backslash (c : Char) : '[' ∉ quoteChars [c] ∨ backslash ∉ quoteChars [c] := by
  by_cases bracket : c = '['
  · right
    subst bracket
    decide
  · left
    intro h
    rcases mem_quoteChars h with mark | ⟨d, hd, hescape⟩
    · rcases mark_eq [c] with other | other <;> rw [other] at mark <;> exact absurd mark (by decide)
    · rw [List.mem_singleton.mp hd] at hescape
      rcases mem_escape hescape with ⟨same, -⟩ | same | sign
      · exact bracket same.symm
      · exact absurd same (by decide)
      · exact absurd sign (by decide)

/-- A quoted text ends in its mark. -/
lemma getLast?_quoteChars (text : List Char) : (quoteChars text).getLast? = some (mark text) := by
  rw [quoteChars, List.getLast?_append]
  rfl

/-! ## Texts without escapes -/

/-- A text that needs no escape stands between apostrophes as it is. -/
lemma quoteChars_of_unescaped {text : List Char}
    (h : ∀ c ∈ text, isPrintable c = true ∧ c ≠ apostrophe ∧ c ≠ backslash) :
    quoteChars text = apostrophe :: text ++ [apostrophe] := by
  have plain : mark text = apostrophe := if_neg fun both => (h _ both.1).2.1 rfl
  have inside : text.flatMap (escape apostrophe) = text := by
    have each : ∀ c ∈ text, escape apostrophe c = [c] := fun c hc =>
      escape_of_isPrintable (h c hc).1 (h c hc).2.1 (h c hc).2.2
    rw [List.flatMap_def, List.map_congr_left each, ← List.flatMap_def, List.flatMap_singleton']
  rw [quoteChars, plain, inside]

end Calculator.Text
