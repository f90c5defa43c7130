import Calculator.Proofs.Diagnostic
import Calculator.Proofs.Lexer.Partition
import Calculator.Proofs.Text.Quoted

/-!
# Plain and printable texts

What the calculator says is made of few kinds of text. Words, numbers and counts are **plain**: ASCII
without control characters and without what the console reads as markup (`IsPlainText`). What comes
from a source is quoted, and then it is **printable** at least (`IsPrintableText`).

A printable text has no control character in it (`IsPrintableText.staysOnLine`), so it ends no line,
takes nothing back that was written and gives no command to a screen.
-/

namespace Calculator

/-- What is true of the characters of two texts is true of the characters of both together. -/
lemma forall_mem_append {P : Char → Prop} {first second : String} (h : ∀ c ∈ first.toList, P c)
    (h' : ∀ c ∈ second.toList, P c) : ∀ c ∈ (first ++ second).toList, P c := by
  rw [String.toList_append]
  exact List.forall_mem_append.mpr ⟨h, h'⟩

/-! ## Plain texts -/

/-- A character of ASCII that is printable and means nothing to the markup of the console. -/
def IsPlain (c : Char) : Prop :=
  0x20 ≤ c.toNat ∧ c.toNat < 0x7f ∧ c ≠ '[' ∧ c ≠ Text.backslash
deriving Decidable

/-- A text of plain characters. -/
def IsPlainText (text : String) : Prop :=
  ∀ c ∈ text.toList, IsPlain c

instance (text : String) : Decidable (IsPlainText text) :=
  decidable_of_iff ((text.toList.all fun c => IsPlain c) = true) List.all_iff_forall_prop

/-- A plain character is printable. -/
lemma IsPlain.isPrintable {c : Char} (h : IsPlain c) : Text.isPrintable c = true :=
  Text.isPrintable_of_ascii h.1 h.2.1

/-- Plain texts one behind the other are a plain text. -/
lemma IsPlainText.append {first second : String} (h : IsPlainText first)
    (h' : IsPlainText second) : IsPlainText (first ++ second) :=
  forall_mem_append h h'

/-- Digits and points are plain, and no quotation marks. -/
lemma isPlain_of_isNumeralChar {c : Char} (h : isNumeralChar c = true) :
    (IsPlain c ∧ c ≠ ' ') ∧ c ≠ Text.apostrophe := by
  have all : ∀ c ∈ alphabet, (IsPlain c ∧ c ≠ ' ') ∧ c ≠ Text.apostrophe :=
    List.all_iff_forall_prop.mp (by decide)
  exact all c (mem_alphabet_iff.mpr (Or.inl h))

/-- The characters that numbers are written with. -/
def numberCharacters : List Char :=
  "0123456789.e+-infa".toList

/-- A number in plain form is made of them. -/
lemma mem_numberCharacters {x : Binary64} {c : Char} (h : c ∈ x.plainForm) :
    c ∈ numberCharacters := by
  rcases Binary64.mem_plainForm h with digit | sign
  · have digits : ∀ c ∈ alphabet, c.isDigit = true → c ∈ numberCharacters :=
      List.all_iff_forall_prop.mp (by decide)
    exact digits c (mem_alphabet_of_isDigit digit) digit
  · have signs : ∀ c ∈ ['.', 'e', '+', '-', 'i', 'n', 'f', 'a'], c ∈ numberCharacters :=
      List.all_iff_forall_prop.mp (by decide)
    exact signs c sign

/-- The characters of numbers in plain form are plain. -/
lemma isPlain_of_mem_plainForm {x : Binary64} {c : Char} (h : c ∈ x.plainForm) :
    IsPlain c ∧ c ≠ ' ' := by
  have all : ∀ c ∈ numberCharacters, IsPlain c ∧ c ≠ ' ' :=
    List.all_iff_forall_prop.mp (by decide)
  exact all c (mem_numberCharacters h)

/-- Numbers are written in plain characters. -/
lemma isPlainText_text (x : Binary64) : IsPlainText x.text := by
  intro c hc
  rw [Binary64.text, String.toList_ofList] at hc
  exact (isPlain_of_mem_plainForm hc).1

/-- Counts are written in plain characters. -/
lemma isPlainText_natural (n : Nat) : IsPlainText (Decimal.natural n) := by
  intro c hc
  rw [Decimal.natural, String.toList_ofList] at hc
  exact (isPlain_of_isNumeralChar (isNumeralChar_of_isDigit (Decimal.isDigit_of_mem_digits hc))).1.1

/-! ## Printable texts -/

/-- A text of printable characters. -/
def IsPrintableText (text : String) : Prop :=
  ∀ c ∈ text.toList, Text.isPrintable c = true

/-- Printable texts one behind the other are a printable text. -/
lemma IsPrintableText.append {first second : String} (h : IsPrintableText first)
    (h' : IsPrintableText second) : IsPrintableText (first ++ second) :=
  forall_mem_append h h'

/-- Plain texts are printable. -/
lemma IsPlainText.isPrintableText {text : String} (h : IsPlainText text) : IsPrintableText text :=
  fun c hc => (h c hc).isPrintable

/-- Quoted text is printable. -/
lemma isPrintableText_quote (text : String) : IsPrintableText (Text.quote text) := by
  intro c hc
  rw [Text.toList_quote] at hc
  exact Text.isPrintable_of_mem_quoteChars hc

/-! ## Control characters -/

/-- A control character: those in front of the space, and those from the delete on up to the no-break
space. -/
def IsControl (c : Char) : Prop :=
  c.toNat < 0x20 ∨ 0x7f ≤ c.toNat ∧ c.toNat < 0xa0
deriving Decidable

/-- A control character is not printable. -/
lemma isPrintable_eq_false_of_isControl {c : Char} (h : IsControl c) :
    Text.isPrintable c = false := by
  unfold Text.isPrintable
  rcases h with low | ⟨low, high⟩
  · rw [if_pos (by omega), decide_eq_false_iff_not]
    exact Nat.not_le.mpr low
  · -- the first range of the table
    have found : Text.inRanges Text.unprintableRanges c.toNat = true := by
      apply List.any_eq_true.mpr
      refine ⟨(0x7f, 0xa0), List.mem_cons_self, ?_⟩
      rw [Bool.and_eq_true, decide_eq_true_eq, decide_eq_true_eq]
      exact ⟨low, high.le⟩
    rw [if_neg (by omega), found]
    rfl

/-- A text that stays on its line: all of it is printable, and no control character is in it. -/
structure StaysOnLine (text : String) : Prop where
  /-- Its characters are printable. -/
  printable : ∀ c ∈ text.toList, Text.isPrintable c = true
  /-- None of them is a control character. -/
  noControl : ∀ c ∈ text.toList, ¬ IsControl c

/-- A printable text stays on its line. -/
lemma IsPrintableText.staysOnLine {text : String} (h : IsPrintableText text) :
    StaysOnLine text := by
  refine ⟨h, ?_⟩
  intro c hc control
  have printable := h c hc
  rw [isPrintable_eq_false_of_isControl control] at printable
  exact Bool.false_ne_true printable

/-- A printable text is on one line. -/
lemma IsPrintableText.newline_notMem {text : String} (h : IsPrintableText text) :
    '\n' ∉ text.toList :=
  fun mem => h.staysOnLine.noControl _ mem (by decide)

end Calculator
