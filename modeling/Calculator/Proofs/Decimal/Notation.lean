import Calculator.Proofs.Binary64.Uniqueness
import Calculator.Proofs.Parser.Literal

/-!
# What a number text is read as

What a text is read as is said here without a reader: a text denotes a rational number (`Denotes`),
and the number that it is read as is the one that the rational number rounds to (`ReadsAs`).

* Decimals have a value of their own (`Decimal.rational`), which a shift of the exponent multiplies by
  a power of ten. What it rounds to is the number nearest to the decimal
  (`Binary64.eq_ofDecimal_of_rounds`).
* **The reader of number texts answers with the number that a text is read as**
  (`ReadsAs.ofText?_eq`): the digits that it collects have the value that the text denotes
  (`Denotes.exists_ofScientific?`), and a rational number rounds to one number only. So a text is read
  as one number (`ReadsAs.unique`), and with a minus sign or without it shows one (`Shows.unique`).
-/

namespace Calculator

/-! ## The value of a decimal -/

namespace Decimal

/-- The value of a decimal. -/
def rational (d : Decimal) : ℚ :=
  d.coefficient * 10 ^ d.exponent

/-- The value of a decimal, counted in units. -/
lemma rational_eq (d : Decimal) :
    d.rational = d.numerator / (d.denominator * Magnitude.unitsOfOne) := by
  have unit := Magnitude.unitsOfOne_pos.ne'
  have power : (10 : ℚ) ^ d.exponent = 10 ^ d.exponent.toNat / 10 ^ (-d.exponent).toNat := by
    conv_lhs => rw [← Int.toNat_sub_toNat_neg d.exponent]
    rw [zpow_sub₀ (by norm_num), zpow_natCast, zpow_natCast]
  rw [rational, power, numerator, denominator]
  simp only [Nat.pow_eq]
  push_cast
  field_simp

/-- A shift of the exponent multiplies the value by a power of ten. -/
lemma rational_shift (coefficient : Nat) (exponent shift : Int) :
    rational ⟨coefficient, exponent + shift⟩ = rational ⟨coefficient, exponent⟩ * 10 ^ shift := by
  simp only [rational]
  rw [zpow_add₀ (by norm_num), mul_assoc]

/-- Zeros at the end of the coefficient are powers of ten. -/
lemma rational_zeros (coefficient zeros : Nat) (exponent : Int) :
    rational ⟨coefficient * 10 ^ zeros, exponent - zeros⟩ = rational ⟨coefficient, exponent⟩ := by
  simp only [rational]
  rw [zpow_sub₀ (by norm_num), zpow_natCast]
  push_cast
  field_simp

/-- A numeral that is read as a decimal has the value of the decimal. -/
lemma numeralValue_eq_rational {text : List Char} {d : Decimal} (h : ofNumeral? text = some d) :
    numeralValue text = d.rational := by
  rw [rational_eq, numeralValue_eq h]

end Decimal

/-- What the value of a decimal rounds to is the number nearest to the decimal. -/
lemma Binary64.eq_ofDecimal_of_rounds {d : Decimal} {x : Binary64} (h : Rounds d.rational x) :
    x = ofDecimal false d := by
  rw [Decimal.rational_eq] at h
  rw [eq_ofRatio_of_rounds d.denominator_pos h]
  exact (ofDecimal_eq_ofRatio (Magnitude.ofDecimal_eq_ofRatio d)).symm

/-! ## What a text is read as -/

/-- A text that denotes a rational number: a numeral, and possibly a power of ten behind it, with a
letter, a sign and digits. -/
inductive Denotes : List Char → ℚ → Prop
  /-- A numeral. -/
  | numeral {text : List Char} (h : IsNumeral text) : Denotes text (numeralValue text)
  /-- A numeral and a power of ten. -/
  | power {text digits : List Char} (negative : Bool) (h : IsNumeral text) (some : digits ≠ [])
      (all : ∀ c ∈ digits, c.isDigit = true) :
      Denotes (text ++ 'e' :: (if negative then '-' else '+') :: digits)
        (numeralValue text *
          10 ^ (if negative then -(Decimal.ofDigits digits : ℤ) else Decimal.ofDigits digits))

/-- The number that a text is read as, behind an optional minus sign: an infinity for its word, and
otherwise what the rational number that the text denotes rounds to. -/
inductive ReadsAs : List Char → Binary64 → Prop
  /-- The word for an infinity. -/
  | infinity (negative : Bool) : ReadsAs (signMark negative ++ ['i', 'n', 'f']) (.infinity negative)
  /-- A rational number, correctly rounded. -/
  | rounded (negative : Bool) {text : List Char} {q : ℚ} {x : Binary64} (h : Denotes text q)
      (rounds : Binary64.Rounds q x) :
      ReadsAs (signMark negative ++ text) (if negative then x.neg else x)

/-- A text that denotes a rational number, behind an optional minus sign. -/
inductive Shows : List Char → ℚ → Prop
  /-- The minus sign goes over to the number. -/
  | signed (negative : Bool) {text : List Char} {q : ℚ} (h : Denotes text q) :
      Shows (signMark negative ++ text) (if negative then -q else q)

/-! ## The reader -/

namespace Decimal

/-- No character of a numeral marks a power of ten. -/
lemma not_exponentMark {c : Char} (h : isNumeralChar c = true) :
    (!(decide (c = 'e') || decide (c = 'E'))) = true := by
  have lower : c ≠ 'e' := by rintro rfl; exact absurd h (by decide)
  have upper : c ≠ 'E' := by rintro rfl; exact absurd h (by decide)
  simp [lower, upper]

/-- Without a power of ten a numeral is read. -/
lemma ofScientific?_of_numeral {text : List Char} (h : ∀ c ∈ text, isNumeralChar c = true) :
    ofScientific? text = ofNumeral? text := by
  have none : text.dropWhile (fun c => !(decide (c = 'e') || decide (c = 'E'))) = [] := by
    rw [List.dropWhile_eq_nil_iff]
    exact fun c hc => not_exponentMark (h c hc)
  simp only [ofScientific?, none]

/-- The power of ten behind a numeral shifts the exponent. -/
lemma ofScientific?_power {text power : List Char} {d : Decimal} {shift : Int}
    (h : ∀ c ∈ text, isNumeralChar c = true) (hd : ofNumeral? text = some d)
    (hpower : signed? power = some shift) :
    ofScientific? (text ++ 'e' :: power) = some ⟨d.coefficient, d.exponent + shift⟩ := by
  have before : ∀ c ∈ text, (!(decide (c = 'e') || decide (c = 'E'))) = true :=
    fun c hc => not_exponentMark (h c hc)
  unfold ofScientific?
  simp only [List.takeWhile_append_of_pos before, List.dropWhile_append_of_pos before]
  simp [hd, hpower]

/-- Digits behind a sign are a whole number. -/
lemma signed?_of_digits {digits : List Char} (negative : Bool) (some : digits ≠ [])
    (all : ∀ c ∈ digits, c.isDigit = true) :
    signed? ((if negative then '-' else '+') :: digits) =
      Option.some (if negative then -(ofDigits digits : Int) else ofDigits digits) := by
  have digit : digits.all Char.isDigit = true := by simpa using all
  cases negative <;> simp [signed?, some, digit]

end Decimal

namespace Denotes

variable {text : List Char} {q : ℚ}

/-- A text that denotes a rational number begins with a digit or a point. -/
lemma exists_cons (h : Denotes text q) : ∃ c rest, text = c :: rest ∧ isNumeralChar c = true := by
  have first : ∀ {text : List Char}, IsNumeral text →
      ∃ c rest, text = c :: rest ∧ isNumeralChar c = true := by
    intro text h
    obtain ⟨d, hd, -⟩ := h.digit
    obtain ⟨c, rest, rfl⟩ := List.exists_cons_of_ne_nil (List.ne_nil_of_mem hd)
    exact ⟨c, rest, rfl, h.chars c (by simp)⟩
  cases h with
  | numeral h => exact first h
  | power negative h some all =>
      obtain ⟨c, rest, rfl, hc⟩ := first h
      exact ⟨c, _, rfl, hc⟩

/-- A text that denotes a rational number is read as a decimal of this value. -/
lemma exists_ofScientific? (h : Denotes text q) :
    ∃ d, Decimal.ofScientific? text = some d ∧ q = d.rational := by
  cases h with
  | numeral h =>
      obtain ⟨d, hd⟩ := h.exists_ofNumeral?
      exact ⟨d, by rw [Decimal.ofScientific?_of_numeral h.chars, hd],
        Decimal.numeralValue_eq_rational hd⟩
  | power negative h some all =>
      obtain ⟨d, hd⟩ := h.exists_ofNumeral?
      refine ⟨_, Decimal.ofScientific?_power h.chars hd
        (Decimal.signed?_of_digits negative some all), ?_⟩
      rw [Decimal.rational_shift, Decimal.numeralValue_eq_rational hd]

/-- A text denotes one rational number. -/
lemma unique {q' : ℚ} (h : Denotes text q) (h' : Denotes text q') : q = q' := by
  obtain ⟨d, hd, rfl⟩ := h.exists_ofScientific?
  obtain ⟨d', hd', rfl⟩ := h'.exists_ofScientific?
  rw [hd] at hd'
  rw [Option.some.inj hd']

end Denotes

/-- A minus sign is no part of a text that begins with a digit or a point. -/
lemma signMark_append_inj {negative negative' : Bool} {c c' : Char} {rest rest' : List Char}
    (h : isNumeralChar c = true) (h' : isNumeralChar c' = true)
    (same : signMark negative ++ c :: rest = signMark negative' ++ c' :: rest') :
    negative = negative' ∧ c :: rest = c' :: rest' := by
  have minus : isNumeralChar '-' = false := rfl
  cases negative <;> cases negative'
  · exact ⟨rfl, same⟩
  · obtain rfl : c = '-' := (List.cons.inj same).1
    rw [minus] at h
    cases h
  · obtain rfl : '-' = c' := (List.cons.inj same).1
    rw [minus] at h'
    cases h'
  · exact ⟨rfl, (List.cons.inj same).2⟩

/-- A text shows one rational number. -/
lemma Shows.unique {text : List Char} {q q' : ℚ} (h : Shows text q) (h' : Shows text q') :
    q = q' := by
  obtain @⟨negative, unsigned, value, h⟩ := h
  generalize same : signMark negative ++ unsigned = text at h'
  obtain ⟨negative', h'⟩ := h'
  obtain ⟨c, rest, rfl, hc⟩ := h.exists_cons
  obtain ⟨c', rest', rfl, hc'⟩ := h'.exists_cons
  obtain ⟨rfl, equal⟩ := signMark_append_inj hc hc' same
  rw [← equal] at h'
  rw [h.unique h']

/-- The characters of numerals are no capital letters. -/
lemma toLower_of_isNumeralChar {c : Char} (h : isNumeralChar c = true) : c.toLower = c := by
  have notUpper : ¬ ('A'.val ≤ c.val ∧ c.val ≤ 'Z'.val) := by
    rintro ⟨low, -⟩
    rw [isNumeralChar, Bool.or_eq_true, decide_eq_true_eq] at h
    rcases h with digit | rfl
    · rw [Char.isDigit, Bool.and_eq_true, decide_eq_true_eq, decide_eq_true_eq] at digit
      exact absurd (UInt32.le_trans low digit.2) (by decide)
    · exact absurd low (by decide)
  exact dif_neg notUpper

namespace Binary64

/-- A text that begins with a digit or a point is no word. -/
lemma ofUnsigned?_of_head {c : Char} {rest : List Char} (h : isNumeralChar c = true)
    (negative : Bool) :
    ofUnsigned? negative (c :: rest) =
      (Decimal.ofScientific? (c :: rest)).map (ofDecimal negative) := by
  have noWord : ∀ {first : Char} {more : List Char}, isNumeralChar first = false →
      String.ofList ((c :: rest).map Char.toLower) ≠ String.ofList (first :: more) := by
    intro first more other heq
    have head := (List.cons.inj (String.ofList_injective heq)).1
    rw [toLower_of_isNumeralChar h] at head
    rw [head, other] at h
    cases h
  have nan : String.ofList ((c :: rest).map Char.toLower) ≠ "nan" := noWord (by decide)
  have inf : String.ofList ((c :: rest).map Char.toLower) ≠ "inf" := noWord (by decide)
  have infinity : String.ofList ((c :: rest).map Char.toLower) ≠ "infinity" := noWord (by decide)
  simp only [ofUnsigned?, nan, inf, infinity, decide_false, Bool.or_false, Bool.false_eq_true,
    if_false]

/-- A sign in front of a text that begins with a digit or a point is the sign of the number. -/
lemma ofText?_signMark {c : Char} {rest : List Char} (h : isNumeralChar c = true)
    (negative : Bool) :
    ofText? (signMark negative ++ c :: rest) =
      (Decimal.ofScientific? (c :: rest)).map (ofDecimal negative) := by
  cases negative with
  | true => exact ofUnsigned?_of_head h true
  | false =>
      have minus : c ≠ '-' := by rintro rfl; exact absurd h (by decide)
      have plus : c ≠ '+' := by rintro rfl; exact absurd h (by decide)
      rw [← ofUnsigned?_of_head h false]
      show ofText? (c :: rest) = _
      unfold ofText?
      split <;> simp_all

/-- The number with a minus sign is the opposite one. -/
lemma ofDecimal_sign (negative : Bool) (d : Decimal) :
    ofDecimal negative d = if negative then (ofDecimal false d).neg else ofDecimal false d := by
  unfold ofDecimal
  cases Magnitude.ofDecimal d <;> cases negative <;> rfl

end Binary64

/-- **The reader answers with the number that a text is read as.** -/
theorem ReadsAs.ofText?_eq {text : List Char} {x : Binary64} (h : ReadsAs text x) :
    Binary64.ofText? text = some x := by
  cases h with
  | infinity negative => cases negative <;> decide
  | @rounded negative text q x h rounds =>
      obtain ⟨c, rest, rfl, hc⟩ := h.exists_cons
      obtain ⟨d, hd, rfl⟩ := h.exists_ofScientific?
      rw [Binary64.ofText?_signMark hc, hd, Option.map_some, Binary64.ofDecimal_sign,
        Binary64.eq_ofDecimal_of_rounds rounds]

/-- A text is read as one number. -/
lemma ReadsAs.unique {text : List Char} {x y : Binary64} (hx : ReadsAs text x)
    (hy : ReadsAs text y) : x = y :=
  Option.some.inj (hx.ofText?_eq.symm.trans hy.ofText?_eq)

end Calculator
