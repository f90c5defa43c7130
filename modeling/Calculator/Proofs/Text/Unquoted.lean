import Mathlib.Algebra.GroupWithZero.Nat
import Calculator.Proofs.Text.Quoted
import Calculator.Toml.Reading

/-!
# Reading quoted texts back

A quoted text can be read again from its front, one character at a time (`next?`): the mark ends it,
the letter behind a backslash says what the escape stands for, and a code point is written with as
many digits as its letter announces, so that no digit behind them is taken for one of its own.

Therefore the text between the marks is known as soon as the closing mark is reached, whatever stands
behind it (`quoteChars_append_inj`), and two texts are never quoted alike (`quote_inj`).
-/

namespace Calculator.Text

/-! ## Code points -/

/-- One more digit behind the others. -/
lemma ofDigitsIn_concat (base : Nat) (digits : List Char) (c : Char) :
    Toml.ofDigitsIn base (digits ++ [c]) =
      base * Toml.ofDigitsIn base digits + Toml.digitValue c := by
  rw [Toml.ofDigitsIn, List.foldl_append]
  rfl

/-- **Hexadecimal digits denote the number** that they are the digits of, if there are enough. -/
lemma ofDigitsIn_hexDigits {width n : Nat} (h : n < 16 ^ width) :
    Toml.ofDigitsIn 16 (hexDigits width n) = n := by
  have digit : ∀ k < 16, Toml.digitValue (Nat.digitChar k) = k := by decide
  induction width generalizing n with
  | zero => exact (Nat.lt_one_iff.mp h).symm
  | succ width ih =>
      have front : n / 16 < 16 ^ width := Nat.div_lt_of_lt_mul (by rwa [← Nat.pow_succ'])
      rw [hexDigits, ofDigitsIn_concat, ih front, digit _ (Nat.mod_lt n (by decide))]
      exact Nat.div_add_mod n 16

/-- The character whose code point is written with `width` digits, and the text behind them. -/
def coded (width : Nat) (text : List Char) : Char × List Char :=
  (Char.ofNat (Toml.ofDigitsIn 16 (text.take width)), text.drop width)

/-- A code point is read with its own digits and no other. -/
lemma coded_hexDigits {width : Nat} {c : Char} (h : c.toNat < 16 ^ width) (rest : List Char) :
    coded width (hexDigits width c.toNat ++ rest) = (c, rest) := by
  rw [coded, List.take_left' (length_hexDigits ..), List.drop_left' (length_hexDigits ..),
    ofDigitsIn_hexDigits h, Char.ofNat_toNat]

/-! ## One character -/

/-- What stands behind a backslash: the character that is meant, and the text behind its escape. -/
def escaped : List Char → Char × List Char
  | [] => (backslash, [])
  | 'n' :: rest => ('\n', rest)
  | 'r' :: rest => ('\r', rest)
  | 't' :: rest => ('\t', rest)
  | 'x' :: rest => coded 2 rest
  | 'u' :: rest => coded 4 rest
  | 'U' :: rest => coded 8 rest
  | c :: rest => (c, rest)

/-- The next character of a text that is closed by a mark, and what stands behind it; none at the
mark. -/
def next? (mark : Char) : List Char → Option (Char × List Char)
  | [] => none
  | c :: rest =>
      if c = mark then none
      else if c = backslash then some (escaped rest)
      else some (c, rest)

/-- The mark closes the text. -/
@[simp] lemma next?_mark (mark : Char) (rest : List Char) : next? mark (mark :: rest) = none :=
  if_pos rfl

/-- Behind a backslash there is an escape. -/
lemma next?_backslash {mark : Char} (h : mark = apostrophe ∨ mark = doubleQuote)
    (rest : List Char) : next? mark (backslash :: rest) = some (escaped rest) := by
  have notMark : backslash ≠ mark := by
    rcases h with rfl | rfl <;> decide
  rw [next?, if_neg notMark, if_pos rfl]

/-- **The next character is read off its escape**, and nothing more of the text. -/
lemma next?_escape {mark : Char} (h : mark = apostrophe ∨ mark = doubleQuote) (c : Char)
    (rest : List Char) : next? mark (escape mark c ++ rest) = some (c, rest) := by
  have behind := next?_backslash h
  unfold escape
  split_ifs with itself newline carriage tab printable short long
  · -- neither a mark nor the backslash is a letter that announces something else
    rw [List.cons_append, behind]
    rcases itself with rfl | rfl
    · rcases h with rfl | rfl <;> rfl
    · rfl
  · rw [newline]
    exact behind _
  · rw [carriage]
    exact behind _
  · rw [tab]
    exact behind _
  · obtain ⟨notMark, notBackslash⟩ := not_or.mp itself
    rw [List.singleton_append, next?, if_neg notMark, if_neg notBackslash]
  · rw [List.cons_append, behind, List.cons_append, escaped, coded_hexDigits short]
  · rw [List.cons_append, behind, List.cons_append, escaped, coded_hexDigits long]
  · have bounded : c.toNat < 16 ^ 8 := by
      have valid : c.toNat < 0xd800 ∨ 0xdfff < c.toNat ∧ c.toNat < 0x110000 := c.valid
      omega
    rw [List.cons_append, behind, List.cons_append, escaped, coded_hexDigits bounded]

/-- A digit behind a code point is a character of the text. -/
example : next? apostrophe (backslash :: "x0bc".toList) = some ('\x0b', ['c']) := by decide

/-! ## Whole texts -/

/-- Where two texts are written alike up to a mark that closes them, they are the same, and the same
stands behind them. -/
lemma flatMap_escape_inj {mark : Char} (h : mark = apostrophe ∨ mark = doubleQuote)
    {text text' rest rest' : List Char}
    (same : text.flatMap (escape mark) ++ mark :: rest =
      text'.flatMap (escape mark) ++ mark :: rest') : text = text' ∧ rest = rest' := by
  -- the induction reads one character of both texts, or the closing mark of both
  induction text generalizing text' with
  | nil =>
      cases text' with
      | nil => exact ⟨rfl, (List.cons.inj same).2⟩
      | cons c' text' =>
          have read := congrArg (next? mark) same
          rw [List.flatMap_cons, List.append_assoc, next?_escape h] at read
          simp at read
  | cons c text ih =>
      rw [List.flatMap_cons, List.append_assoc] at same
      have read := congrArg (next? mark) same
      rw [next?_escape h] at read
      cases text' with
      | nil => simp at read
      | cons c' text' =>
          rw [List.flatMap_cons, List.append_assoc, next?_escape h] at read
          obtain ⟨rfl, later⟩ := Prod.mk.inj (Option.some.inj read)
          obtain ⟨rfl, behind⟩ := ih later
          exact ⟨rfl, behind⟩

/-- **A quoted text says where it ends.** -/
theorem quoteChars_append_inj {text text' rest rest' : List Char}
    (same : quoteChars text ++ rest = quoteChars text' ++ rest') : text = text' ∧ rest = rest' := by
  simp only [quoteChars, List.cons_append, List.append_assoc, List.nil_append] at same
  obtain ⟨marks, inside⟩ := List.cons.inj same
  rw [← marks] at inside
  exact flatMap_escape_inj (mark_eq text) inside

/-- **Two texts are never quoted alike.** -/
theorem quote_inj {text text' : String} : quote text = quote text' ↔ text = text' := by
  constructor
  · intro same
    have characters := congrArg String.toList same
    rw [toList_quote, toList_quote, ← List.append_nil (quoteChars text.toList),
      ← List.append_nil (quoteChars text'.toList)] at characters
    exact String.toList_inj.mp (quoteChars_append_inj characters).1
  · rintro rfl
    rfl

end Calculator.Text
