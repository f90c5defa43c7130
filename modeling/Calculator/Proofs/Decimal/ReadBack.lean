import Calculator.Decimal.Layout
import Calculator.Decimal.Reading
import Calculator.Proofs.Binary64.Nearest
import Calculator.Proofs.Decimal.Digits

/-!
# Written numbers read back

A magnitude is written with the shortest digits that read back, and this is what they do.

* Reading a decimal is the one rounding of its value (`Magnitude.ofDecimal_eq_ofRatio`): the two
  bounds that spare the powers of an astronomical exponent never change an answer. So decimals of one
  value are read alike (`Magnitude.ofDecimal_shift`).
* What the search for digits hits rounds to the magnitude, whichever grid it is on
  (`ReadBack.contains_search`), and hence **the shortest decimal reads back as the magnitude**
  (`Magnitude.ofDecimal_shortest`).
* Written in positional form the digits are a numeral, of the same value as the decimal
  (`Decimal.ofNumeral?_positional`), so **a number in positional form reads back as itself**
  (`Binary64.ofNumeral?_text`).
-/

namespace Calculator

/-! ## Reading is rounding -/

namespace Magnitude

/-- The unit is a power of a half; the exponent is kept apart, lest the power be computed. -/
lemma exists_unitsOfOne : ∃ places, places = 1074 ∧ unitsOfOne = Nat.pow 2 places := by
  refine ⟨1074, rfl, ?_⟩
  unfold unitsOfOne
  rfl

/-- A power of two with three times the exponent is less than the power of ten. -/
lemma pow_three_mul_le (n : Nat) : 2 ^ (3 * n) ≤ 10 ^ n := by
  rw [pow_mul]
  exact Nat.pow_le_pow_left (by decide) n

/-- A decimal with an exponent beyond the first bound rounds to no magnitude. -/
lemma ofRatio_of_isHuge {d : Decimal} (h : d.isHuge = true) :
    ofRatio d.numerator d.denominator = none := by
  obtain ⟨places, hplaces, hunits⟩ := exists_unitsOfOne
  simp only [Decimal.isHuge, Bool.and_eq_true, decide_eq_true_eq] at h
  obtain ⟨nonzero, huge⟩ := h
  have one : d.denominator = 1 := by
    rw [Decimal.denominator, Int.toNat_of_nonpos (by omega), Nat.pow_eq, pow_zero]
  have atLeast : 2 ^ (3 * d.exponent.toNat + places) ≤ d.numerator := by
    rw [Decimal.numerator, hunits, pow_add, Nat.pow_eq, Nat.pow_eq]
    refine Nat.mul_le_mul_right _ ((pow_three_mul_le _).trans ?_)
    exact Nat.le_mul_of_pos_left _ (Nat.pos_of_ne_zero nonzero)
  rw [Option.eq_none_iff_forall_ne_some]
  intro m hm
  have below := lt_of_contains d.denominator_pos (contains_of_ofRatio d.denominator_pos hm)
  rw [one, Nat.one_mul, ← pow_add] at below
  have bound : 2 ^ (53 + m.exponent) ≤ 2 ^ (3 * d.exponent.toNat + places) := by
    have canonical := m.canonical.2.1
    exact Nat.pow_le_pow_right (by decide) (by omega)
  exact absurd (below.trans_le bound) (Nat.not_lt.mpr atLeast)

/-- A decimal below the second bound rounds to zero. -/
lemma ofRatio_of_isNegligible {d : Decimal} (h : d.isNegligible = true) :
    ofRatio d.numerator d.denominator = some zero := by
  have small : 2 ^ 2 * d.numerator ≤ d.denominator := by
    simp only [Decimal.isNegligible, Bool.or_eq_true, decide_eq_true_eq] at h
    rcases h with hzero | hsmall
    · simp [Decimal.numerator, hzero]
    · obtain ⟨places, hplaces, hunits⟩ := exists_unitsOfOne
      have one : d.exponent.toNat = 0 := Int.toNat_of_nonpos (by omega)
      have exponent : 2 + (d.coefficient.log2 + 1 + places) ≤ 3 * (-d.exponent).toNat := by omega
      calc 2 ^ 2 * d.numerator = 2 ^ 2 * (d.coefficient * 2 ^ places) := by
            rw [Decimal.numerator, one, hunits, Nat.pow_eq, Nat.pow_eq, pow_zero, Nat.mul_one]
        _ ≤ 2 ^ 2 * (2 ^ (d.coefficient.log2 + 1) * 2 ^ places) :=
            Nat.mul_le_mul_left _ (Nat.mul_le_mul_right _ Nat.lt_log2_self.le)
        _ = 2 ^ (2 + (d.coefficient.log2 + 1 + places)) := by rw [← pow_add, ← pow_add]
        _ ≤ 2 ^ (3 * (-d.exponent).toNat) := Nat.pow_le_pow_right (by decide) exponent
        _ ≤ d.denominator := pow_three_mul_le _
  rw [ofRatio_eq_some_iff d.denominator_pos, contains_readBackOver_iff]
  simp only [zero, Nat.zero_mul, Nat.mul_zero, pow_zero, Nat.mul_one]
  have positive := d.denominator_pos
  exact ⟨Nat.zero_le _, by omega, fun h => absurd h (by decide)⟩

/-- **Reading a decimal is rounding its value**, however large or small its exponent. -/
theorem ofDecimal_eq_ofRatio (d : Decimal) :
    ofDecimal d = ofRatio d.numerator d.denominator := by
  unfold ofDecimal
  split
  · rename_i huge
    exact (ofRatio_of_isHuge huge).symm
  · split
    · rename_i negligible
      exact (ofRatio_of_isNegligible negligible).symm
    · rfl

/-- Zeros at the end of the coefficient are read like powers of ten. -/
lemma ofDecimal_shift (coefficient zeros : Nat) (exponent : Int) :
    ofDecimal ⟨coefficient * 10 ^ zeros, exponent - zeros⟩ = ofDecimal ⟨coefficient, exponent⟩ := by
  rw [ofDecimal_eq_ofRatio, ofDecimal_eq_ofRatio]
  apply ofRatio_congr (Decimal.denominator_pos _) (Decimal.denominator_pos _)
  have powers : 10 ^ zeros * 10 ^ (exponent - zeros).toNat * 10 ^ (-exponent).toNat =
      10 ^ exponent.toNat * 10 ^ (-(exponent - zeros)).toNat := by
    rw [← pow_add, ← pow_add, ← pow_add]
    congr 1
    omega
  simp only [Decimal.numerator, Decimal.denominator, Nat.pow_eq]
  calc coefficient * 10 ^ zeros * 10 ^ (exponent - zeros).toNat * unitsOfOne *
          10 ^ (-exponent).toNat
      = coefficient * unitsOfOne *
          (10 ^ zeros * 10 ^ (exponent - zeros).toNat * 10 ^ (-exponent).toNat) := by ring
    _ = coefficient * 10 ^ exponent.toNat * unitsOfOne * 10 ^ (-(exponent - zeros)).toNat := by
        rw [powers]
        ring

end Magnitude

/-! ## The shortest digits -/

namespace ReadBack

/-- What is hit on a grid is in the interval. -/
lemma contains_of_onGrid? {r : ReadBack} {place factor : Nat} (h : r.onGrid? place = some factor) :
    r.contains (factor * 10 ^ place) = true := by
  unfold onGrid? at h
  simp only [Nat.pow_eq] at h
  split at h <;> cases h
  · rename_i hlow hhigh
    rcases roundDiv_eq r.center (10 ^ place) with hdown | hup
    · rwa [hdown]
    · rwa [hup]
  · assumption
  · assumption

/-- **What the search hits is in the interval**, if the center is. -/
lemma contains_search {r : ReadBack} (hcenter : r.contains r.center = true) (place : Nat) :
    r.contains ((r.search place).1 * 10 ^ (r.search place).2) = true := by
  induction place with
  | zero => simpa [search] using hcenter
  | succ place ih =>
      unfold search
      split
      · rename_i hfactor
        exact contains_of_onGrid? hfactor
      · exact ih

end ReadBack

namespace Magnitude

/-- A magnitude is in the interval around it. -/
lemma contains_center {den : Nat} (positive : 0 < den) (m : Magnitude) :
    (m.readBackOver den).contains (m.readBackOver den).center = true := by
  have above : 0 < m.gapAbove * den :=
    Nat.mul_pos (Nat.mul_pos (by decide) (Nat.two_pow_pos _)) positive
  have below : 0 < m.gapBelow * den := by
    refine Nat.mul_pos ?_ positive
    unfold gapBelow
    split
    · exact Nat.two_pow_pos _
    · exact Nat.mul_pos (by decide) (Nat.two_pow_pos _)
  rw [ReadBack.contains_iff]
  simp only [readBackOver]
  omega

/-- A decimal is read as a magnitude if it is in the interval around it, in a unit of which it is a
multiple. The number of places is kept apart here too. -/
lemma ofDecimal_eq_some_iff {m : Magnitude} {factor place places finer : Nat}
    (hplaces : places = 1074) :
    ofDecimal ⟨factor, (place : Int) - places - finer⟩ = some m ↔
      (m.readBackOver (5 ^ places * 10 ^ finer)).contains (factor * 10 ^ place) = true := by
  have positive : 0 < 5 ^ places * 10 ^ finer :=
    Nat.mul_pos (Nat.pow_pos (by decide)) (Nat.pow_pos (by decide))
  obtain ⟨places', hplaces', hunits⟩ := exists_unitsOfOne
  obtain rfl : places' = places := hplaces'.trans hplaces.symm
  rw [← ofRatio_eq_some_iff positive, ofDecimal_eq_ofRatio]
  suffices same : ofRatio (Decimal.numerator ⟨factor, (place : Int) - places' - finer⟩)
      (Decimal.denominator ⟨factor, (place : Int) - places' - finer⟩) =
        ofRatio (factor * 10 ^ place) (5 ^ places' * 10 ^ finer) by
    rw [same]
  apply ofRatio_congr (Decimal.denominator_pos _) positive
  have ten : 2 ^ places' * 5 ^ places' = 10 ^ places' := by rw [← Nat.mul_pow]
  have exponents : ((place : Int) - places' - finer).toNat + (places' + finer) =
      place + (-((place : Int) - places' - finer)).toNat := by omega
  simp only [Decimal.numerator, Decimal.denominator, hunits, Nat.pow_eq]
  calc factor * 10 ^ ((place : Int) - places' - finer).toNat * 2 ^ places' *
          (5 ^ places' * 10 ^ finer)
      = factor * (10 ^ ((place : Int) - places' - finer).toNat *
          (2 ^ places' * 5 ^ places' * 10 ^ finer)) := by ring
    _ = factor * 10 ^ place * 10 ^ (-((place : Int) - places' - finer)).toNat := by
        rw [ten, ← pow_add, ← pow_add, exponents, pow_add, Nat.mul_assoc]

/-- **The shortest decimal reads back as the magnitude** it was found for. -/
theorem ofDecimal_shortest (m : Magnitude) : ofDecimal m.shortest = some m := by
  unfold shortest
  split
  · rename_i hzero
    rw [units_eq_zero_iff.mp hzero]
    rfl
  · obtain ⟨places, hplaces, hreadBack⟩ := m.exists_readBack
    have positive : 0 < Nat.pow 5 places := Nat.pow_pos (by decide)
    have hcenter := m.contains_center positive
    rw [← hreadBack] at hcenter
    have hit := ReadBack.contains_search hcenter m.readBack.coarsestPlace
    simp only [hreadBack] at hit ⊢
    have read : ∀ factor place : Nat,
        (m.readBackOver (Nat.pow 5 places)).contains (factor * 10 ^ place) = true →
          ofDecimal ⟨factor, (place : Int) - places⟩ = some m := by
      intro factor place inside
      have whole := @ofDecimal_eq_some_iff m factor place places 0 hplaces
      rw [pow_zero, Nat.mul_one, Nat.cast_zero, Int.sub_zero] at whole
      exact whole.mpr inside
    simpa only [hplaces, Nat.cast_ofNat] using read _ _ hit

end Magnitude

/-! ## Digits in positional form -/

namespace Decimal

/-- The point is not a digit. -/
lemma isDigit_point : Char.isDigit '.' = false := rfl

/-- Digits without a point do not have one taken off them. -/
lemma takeWhile_isDigit {whole fraction : List Char} (hwhole : ∀ c ∈ whole, c.isDigit = true) :
    (whole ++ '.' :: fraction).takeWhile Char.isDigit = whole ∧
      (whole ++ '.' :: fraction).dropWhile Char.isDigit = '.' :: fraction := by
  rw [List.takeWhile_append_of_pos hwhole, List.dropWhile_append_of_pos hwhole]
  simp [isDigit_point]

/-- Digits on either side of a point are a numeral. -/
lemma ofNumeral?_parts {whole fraction : List Char} (hwhole : ∀ c ∈ whole, c.isDigit = true)
    (hfraction : ∀ c ∈ fraction, c.isDigit = true) (hsome : whole ≠ []) :
    ofNumeral? (whole ++ '.' :: fraction) = some (ofParts whole fraction) := by
  obtain ⟨htake, hdrop⟩ := @takeWhile_isDigit whole fraction hwhole
  have all : fraction.all Char.isDigit = true := by simpa using hfraction
  unfold ofNumeral?
  rw [htake, hdrop]
  simp [all, hsome]

/-- Zeros in front of digits do not count. -/
lemma ofDigits_zeros_append (zeros : Nat) (text : List Char) :
    ofDigits (List.replicate zeros '0' ++ text) = ofDigits text := by
  rw [ofDigits, Nat.ofDigitChars_append, Nat.ofDigitChars_replicate_zero, Nat.mul_zero]
  rfl

/-- Zeros behind digits are powers of ten. -/
lemma ofDigits_append_zeros (text : List Char) (zeros : Nat) :
    ofDigits (text ++ List.replicate zeros '0') = ofDigits text * 10 ^ zeros := by
  rw [ofDigits, Nat.ofDigitChars_append, Nat.ofDigitChars_replicate_zero, Nat.mul_comm]
  rfl

/-- Zeros are digits. -/
lemma isDigit_of_mem_zeros {c : Char} {n : Nat} (h : c ∈ List.replicate n '0') :
    c.isDigit = true := by
  rw [List.eq_of_mem_replicate h]
  rfl

/-- With the point in front of all digits, zeros stand between them. -/
lemma ofNumeral?_front {coefficient : Nat} {exponent : Int}
    (h : exponent + (digits coefficient).length ≤ 0) :
    ofNumeral? ('0' :: '.' :: (List.replicate
        (-(exponent + (digits coefficient).length)).toNat '0' ++ digits coefficient)) =
      some ⟨coefficient, exponent⟩ := by
  have fraction : ∀ c ∈ List.replicate (-(exponent + (digits coefficient).length)).toNat '0' ++
      digits coefficient, c.isDigit = true := by
    intro c hc
    rcases List.mem_append.mp hc with hzero | hdigit
    · exact isDigit_of_mem_zeros hzero
    · exact isDigit_of_mem_digits hdigit
  have numeral := @ofNumeral?_parts ['0'] _ (by simp) fraction (by simp)
  rw [List.singleton_append] at numeral
  rw [numeral, ofParts, ← List.replicate_one, ofDigits_zeros_append, ofDigits_zeros_append,
    ofDigits_digits, List.length_append, List.length_replicate]
  congr 2
  omega

/-- With the point behind all digits, zeros stand between them, and one behind the point. -/
lemma ofNumeral?_back (coefficient zeros : Nat) :
    ofNumeral? (digits coefficient ++ List.replicate zeros '0' ++ ['.', '0']) =
      some ⟨coefficient * 10 ^ (zeros + 1), -1⟩ := by
  have whole : ∀ c ∈ digits coefficient ++ List.replicate zeros '0', c.isDigit = true := by
    intro c hc
    rcases List.mem_append.mp hc with hdigit | hzero
    · exact isDigit_of_mem_digits hdigit
    · exact isDigit_of_mem_zeros hzero
  rw [ofNumeral?_parts whole (by simp) (by simp [digits_ne_nil]), ofParts, List.append_assoc,
    ← List.replicate_one, List.replicate_append_replicate, ofDigits_append_zeros, ofDigits_digits]
  rfl

/-- With the point among the digits, nothing is filled in. -/
lemma ofNumeral?_inside {coefficient point : Nat} (hfront : 0 < point)
    (hback : point < (digits coefficient).length) :
    ofNumeral? ((digits coefficient).take point ++ '.' :: (digits coefficient).drop point) =
      some ⟨coefficient, (point : Int) - (digits coefficient).length⟩ := by
  have some : (digits coefficient).take point ≠ [] := by
    intro hnil
    have length := congrArg List.length hnil
    rw [List.length_take, List.length_nil] at length
    omega
  rw [ofNumeral?_parts (fun c hc => isDigit_of_mem_digits (List.mem_of_mem_take hc))
    (fun c hc => isDigit_of_mem_digits (List.mem_of_mem_drop hc)) some, ofParts,
    List.take_append_drop, ofDigits_digits, List.length_drop]
  congr 2
  omega

/-- **Digits in positional form are a numeral of the value of the decimal**: it is read like the
decimal. -/
lemma ofNumeral?_positional (d : Decimal) :
    ∃ d', ofNumeral? (positional (digits d.coefficient) (d.leadingPower + 1)) = some d' ∧
      Magnitude.ofDecimal d' = Magnitude.ofDecimal d := by
  obtain ⟨coefficient, exponent⟩ := d
  have point : leadingPower ⟨coefficient, exponent⟩ + 1 =
      exponent + (digits coefficient).length := by
    simp only [leadingPower]
    omega
  simp only [point]
  unfold positional
  by_cases hfront : exponent + (digits coefficient).length ≤ 0
  · rw [if_pos hfront]
    exact ⟨_, ofNumeral?_front hfront, rfl⟩
  · rw [if_neg hfront]
    by_cases hback : ((digits coefficient).length : Int) ≤ exponent + (digits coefficient).length
    · rw [if_pos hback]
      refine ⟨_, ofNumeral?_back coefficient _, ?_⟩
      rw [← Magnitude.ofDecimal_shift coefficient _ exponent]
      congr 2
      omega
    · rw [if_neg hback]
      refine ⟨_, ofNumeral?_inside (by omega) (by omega), ?_⟩
      congr 2
      omega

/-- Digits in exponential form have a letter among them. -/
lemma mem_exponential (digits : List Char) (power : Int) :
    'e' ∈ exponential digits power := by
  unfold exponential powerMark
  split <;> simp

end Decimal

namespace Binary64

/-- Whether a number is written in fixed notation: digits with one point among them. -/
def HasFixedNotation (x : Binary64) : Prop :=
  (∀ c ∈ x.text.toList, c.isDigit = true ∨ c = '.') ∧ x.text.toList.count '.' = 1

/-- **A number in fixed notation reads back as itself.** -/
theorem ofNumeral?_text {x : Binary64} (h : x.HasFixedNotation) :
    ∃ d, Decimal.ofNumeral? x.text.toList = some d ∧ ofDecimal false d = x := by
  obtain ⟨hchars, -⟩ := h
  rw [text, String.toList_ofList] at *
  cases x with
  | nan => exact absurd (hchars 'n' (by simp [plainForm])) (by decide)
  | infinity negative => exact absurd (hchars 'i' (by simp [plainForm])) (by decide)
  | finite negative m =>
      cases negative with
      | true => exact absurd (hchars '-' (by simp [plainForm, signMark])) (by decide)
      | false =>
          have hform : (finite false m).plainForm = m.shortest.plainForm := rfl
          rw [hform] at hchars ⊢
          unfold Decimal.plainForm at hchars ⊢
          simp only at hchars ⊢
          split at hchars
          · rename_i hpower
            obtain ⟨d, hd, hvalue⟩ := Decimal.ofNumeral?_positional m.shortest
            refine ⟨d, by rw [if_pos hpower, hd], ?_⟩
            rw [ofDecimal, hvalue, Magnitude.ofDecimal_shortest]
          · exact absurd (hchars 'e' (Decimal.mem_exponential _ _)) (by decide)

end Binary64

end Calculator
