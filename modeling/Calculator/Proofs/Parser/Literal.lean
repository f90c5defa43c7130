import Mathlib.Algebra.Field.Rat
import Calculator.Proofs.Binary64.Rational
import Calculator.Proofs.Lexer.Partition
import Calculator.Proofs.Parser.Inorder
import Calculator.Proofs.Parser.Trailing

/-!
# Literals are read exactly

A numeral denotes a rational number (`numeralValue`), whatever its length.

* Reading a numeral rounds its value (`rounds_of_ofNumeral?`). A numeral is a token on its own
  (`tokenize_of_isNumeral`), and every token of a number stands at a numeral
  (`isNumeral_of_mem_tokenize`).

`literals_exact` has it all: what a numeral is read as, and that no leaf of a parsed tree is anything
but a number without a sign.
-/

namespace Calculator

/-! ## Numerals and their values -/

/-- A text of digits with at most one point among them, and at least one digit. -/
structure IsNumeral (text : List Char) : Prop where
  /-- It consists of digits and points. -/
  chars : ∀ c ∈ text, isNumeralChar c = true
  /-- It has at most one point. -/
  points : text.count '.' ≤ 1
  /-- It has a digit. -/
  digit : ∃ c ∈ text, c.isDigit = true

/-- The value of a numeral: the digits before the point are a whole number, and those behind it so
many parts of a power of ten. -/
def numeralValue (text : List Char) : ℚ :=
  let whole := text.takeWhile (· ≠ '.')
  let fraction := (text.dropWhile (· ≠ '.')).drop 1
  Decimal.ofDigits whole + Decimal.ofDigits fraction / 10 ^ fraction.length

/-- A numeral is read as a decimal. -/
lemma IsNumeral.exists_ofNumeral? {text : List Char} (h : IsNumeral text) :
    ∃ d, Decimal.ofNumeral? text = some d := by
  rw [← Option.ne_none_iff_exists', ne_eq, ofNumeral?_eq_none_iff h.chars, not_or]
  refine ⟨by have := h.points; omega, ?_⟩
  intro noDigit
  obtain ⟨c, hc, hdigit⟩ := h.digit
  rw [noDigit c hc] at hdigit
  cases hdigit

/-- What is read as a decimal is a numeral. -/
lemma isNumeral_of_ofNumeral? {text : List Char} {d : Decimal}
    (chars : ∀ c ∈ text, isNumeralChar c = true) (h : Decimal.ofNumeral? text = some d) :
    IsNumeral text := by
  have some : Decimal.ofNumeral? text ≠ none := by
    rw [h]
    exact Option.some_ne_none d
  rw [ne_eq, ofNumeral?_eq_none_iff chars, not_or] at some
  refine ⟨chars, by omega, ?_⟩
  by_contra noDigit
  exact some.2 fun c hc => by simpa using fun hdigit => noDigit ⟨c, hc, hdigit⟩

/-- A text that is read as a decimal is digits, or digits on either side of a point. -/
lemma exists_parts_of_ofNumeral? {text : List Char} {d : Decimal}
    (h : Decimal.ofNumeral? text = some d) :
    ∃ whole fraction, d = Decimal.ofParts whole fraction ∧ (∀ c ∈ whole, c.isDigit = true) ∧
      (text = whole ∧ fraction = [] ∨ text = whole ++ '.' :: fraction) := by
  have split := List.takeWhile_append_dropWhile (p := Char.isDigit) (l := text)
  have digits : ∀ c ∈ text.takeWhile Char.isDigit, c.isDigit = true := fun c hc =>
    List.mem_takeWhile_imp hc
  unfold Decimal.ofNumeral? at h
  cases hdrop : text.dropWhile Char.isDigit with
  | nil =>
      rw [hdrop] at split
      simp only [hdrop] at h
      split_ifs at h
      cases h
      rw [List.append_nil] at split
      exact ⟨_, [], rfl, digits, Or.inl ⟨split.symm, rfl⟩⟩
  | cons point fraction =>
      rw [hdrop] at split
      simp only [hdrop] at h
      split_ifs at h with hparts
      cases h
      rw [hparts.1] at split
      exact ⟨_, fraction, rfl, digits, Or.inr split.symm⟩

/-- A point ends the digits before it. -/
lemma takeWhile_ne_point {whole : List Char} (hwhole : ∀ c ∈ whole, c.isDigit = true)
    (behind : List Char) :
    (whole ++ behind).takeWhile (· ≠ '.') = whole ++ behind.takeWhile (· ≠ '.') ∧
      (whole ++ behind).dropWhile (· ≠ '.') = behind.dropWhile (· ≠ '.') := by
  have noPoint : ∀ c ∈ whole, decide (c ≠ '.') = true := by
    intro c hc
    rw [decide_eq_true_eq]
    rintro rfl
    exact absurd (hwhole _ hc) (by decide)
  exact ⟨List.takeWhile_append_of_pos noPoint, List.dropWhile_append_of_pos noPoint⟩

/-- **A decimal that is read has the value of its numeral.** -/
lemma numeralValue_eq {text : List Char} {d : Decimal} (h : Decimal.ofNumeral? text = some d) :
    numeralValue text = d.numerator / (d.denominator * Magnitude.unitsOfOne) := by
  obtain ⟨whole, fraction, rfl, hwhole, parts⟩ := exists_parts_of_ofNumeral? h
  have value : numeralValue text =
      Decimal.ofDigits whole + Decimal.ofDigits fraction / 10 ^ fraction.length := by
    unfold numeralValue
    rcases parts with ⟨rfl, rfl⟩ | rfl
    · obtain ⟨htake, hdrop⟩ := takeWhile_ne_point hwhole []
      rw [List.append_nil] at htake hdrop
      rw [htake, hdrop]
      simp
    · obtain ⟨htake, hdrop⟩ := takeWhile_ne_point hwhole ('.' :: fraction)
      rw [htake, hdrop]
      simp
  have digits : Decimal.ofDigits (whole ++ fraction) =
      10 ^ fraction.length * Decimal.ofDigits whole + Decimal.ofDigits fraction := by
    rw [Decimal.ofDigits, Nat.ofDigitChars_append, Nat.ofDigitChars_eq_ofDigitChars_zero]
    rfl
  have nothing : (-(fraction.length : Int)).toNat = 0 := Int.toNat_of_nonpos (by omega)
  have places : (- -(fraction.length : Int)).toNat = fraction.length := by omega
  have unit := Magnitude.unitsOfOne_pos.ne'
  rw [value, Decimal.numerator, Decimal.denominator, Decimal.ofParts, digits]
  simp only [nothing, places, Nat.pow_eq, pow_zero, Nat.mul_one]
  push_cast
  field_simp

/-- **Reading rounds.** -/
lemma rounds_of_ofNumeral? {text : List Char} {d : Decimal}
    (h : Decimal.ofNumeral? text = some d) :
    Binary64.Rounds (numeralValue text) (.ofDecimal false d) := by
  rw [numeralValue_eq h]
  exact Binary64.rounds_ofDecimal d

/-! ## Tokens -/

/-- A numeral is a token on its own, and an expression. -/
lemma tokenize_of_isNumeral {text : List Char} (h : IsNumeral text) :
    ∃ value, tokenize (String.ofList text) =
        ([⟨.number value, 0⟩, ⟨.endOfInput, text.length⟩], none) ∧
      Binary64.Rounds (numeralValue text) value := by
  obtain ⟨d, hd⟩ := h.exists_ofNumeral?
  refine ⟨.ofDecimal false d, ?_, rounds_of_ofNumeral? hd⟩
  have whole := @tokensAt_numeral text [] d hd h.chars rfl 0
  rw [List.append_nil, tokensAt_of_isGap isGap_nil] at whole
  rw [tokenize_eq_tokensAt, String.toList_ofList, whole, Nat.zero_add]
  rfl

/-- A token of a number stands at a numeral, and has the number that its value rounds to. -/
lemma isNumeral_of_mem_tokenize {source : String} {token : Token} {value : Binary64}
    (h : token ∈ (tokenize source).1) (hsymbol : token.symbol = .number value) :
    ∃ lexeme, LexemeAt source.toList token.pos lexeme ∧ IsNumeral lexeme ∧
      Binary64.Rounds (numeralValue lexeme) value := by
  obtain ⟨lexeme, hlexeme, hspells⟩ := lexemeAt_of_mem_tokenize h (by simp [Token.isEnd, hsymbol])
  rw [hsymbol] at hspells
  cases hspells with
  | number numeral hd =>
      exact ⟨lexeme, hlexeme, isNumeral_of_ofNumeral? numeral hd, rounds_of_ofNumeral? hd⟩

/-! ## Literals of a source -/

/-- **Literals are read exactly.** A numeral of any length is one token, and parsed to one leaf,
with the number that its value rounds to. A token of a number in any source stands at a numeral and
has the number that the value of that rounds to. The leaves of a parsed tree are the numbers of the
tokens that were read, in order; they are numbers, and none of them has a sign. -/
theorem literals_exact :
    (∀ text, IsNumeral text → ∃ value,
      tokenize (String.ofList text) =
        ([⟨.number value, 0⟩, ⟨.endOfInput, text.length⟩], none) ∧
      (∀ allowTrailing, parseExpr (String.ofList text) allowTrailing = .ok (.leaf value)) ∧
      Binary64.Rounds (numeralValue text) value) ∧
    (∀ source : String, ∀ token ∈ (tokenize source).1, ∀ value, token.symbol = .number value →
      ∃ lexeme, LexemeAt source.toList token.pos lexeme ∧ IsNumeral lexeme ∧
        Binary64.Rounds (numeralValue lexeme) value) ∧
    ∀ (source : String) (allowTrailing : Bool) (tree : Expr),
      parseExpr source allowTrailing = .ok tree →
        (∃ taken, taken <+: (tokenize source).1 ∧
          tree.leaves = (taken.map Token.symbol).filterMap Symbol.number?) ∧
        ∀ value ∈ tree.leaves, value ≠ .nan ∧ value.isNegative = false := by
  refine ⟨?_, ?_, ?_⟩
  · intro text h
    obtain ⟨value, htokens, rounds⟩ := tokenize_of_isNumeral h
    refine ⟨value, htokens, ?_, rounds⟩
    intro allowTrailing
    have leads : Leads (String.ofList text) [⟨.number value, 0⟩] (.leaf value)
        ⟨.endOfInput, text.length⟩ :=
      ⟨⟨[], none, htokens⟩, .single (.single (.number value)), by simp [nestsWithin_cons_iff], rfl⟩
    rw [parseExpr_of_leads leads]
    rfl
  · intro source token htoken value hsymbol
    exact isNumeral_of_mem_tokenize htoken hsymbol
  · intro source allowTrailing tree h
    obtain ⟨taken, next, leads, -⟩ := exists_leads_of_parseExpr h
    obtain ⟨later, fault, htokens⟩ := leads.tokens
    have leaves := leads.derives.leaves_eq
    refine ⟨⟨taken, by simp [htokens], leaves⟩, ?_⟩
    intro value hvalue
    rw [leaves, List.mem_filterMap] at hvalue
    obtain ⟨symbol, hsymbol, hnumber⟩ := hvalue
    obtain ⟨token, htoken, rfl⟩ := List.mem_map.mp hsymbol
    have member : token ∈ (tokenize source).1 := by simp [htokens, htoken]
    obtain ⟨lexeme, -, -, rounds⟩ :=
      isNumeral_of_mem_tokenize member (Symbol.number?_eq_some_iff.mp hnumber)
    exact rounds.not_negative

/-- The first whole number that is halfway between two binary64 numbers. -/
theorem literals_exact_halfway :
    IsNumeral "9007199254740993".toList ∧ ∃ value,
      tokenize "9007199254740993" = ([⟨.number value, 0⟩, ⟨.endOfInput, 16⟩], none) ∧
        Binary64.Rounds 9007199254740993 value := by
  have numeral : IsNumeral "9007199254740993".toList :=
    ⟨by simp [isNumeralChar], by decide, '9', by simp, by decide⟩
  have value : numeralValue "9007199254740993".toList = 9007199254740993 := by
    have digits : Decimal.ofDigits "9007199254740993".toList = 9007199254740993 := by
      decide +kernel
    have whole : "9007199254740993".toList.takeWhile (· ≠ '.') = "9007199254740993".toList := by
      decide +kernel
    have fraction : "9007199254740993".toList.dropWhile (· ≠ '.') = [] := by decide +kernel
    have nothing : Decimal.ofDigits [] = 0 := rfl
    rw [numeralValue, whole, fraction, digits]
    simp [nothing]
  obtain ⟨x, htokens, -, rounds⟩ := literals_exact.1 _ numeral
  rw [value] at rounds
  exact ⟨numeral, x, htokens, rounds⟩

end Calculator
