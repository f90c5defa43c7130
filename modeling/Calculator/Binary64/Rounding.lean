import Calculator.Binary64.Basic

/-!
# Rounding to nearest, ties to even

There is one rounding in this library, and every result goes through it once.

* `roundDiv num den` is the natural number nearest to `num / den`; a tie goes to the even one.
  `roundDiv_bounds` says that it is within half a unit.
* `Magnitude.ofRatio num den` is the binary64 magnitude nearest to `num / den` units. The place of
  the last bit is read off the bit length of the quotient, the quotient is rounded at that place,
  and a carry out of the 53rd bit moves the exponent by one. The answer is `none` where the format
  has no finite magnitude, which is from `2 ^ 1024 - 2 ^ 970` on.
-/

namespace Calculator

/-- The natural number nearest to `num / den`; of two that are equally near, the even one. -/
def roundDiv (num den : Nat) : Nat :=
  let quotient := num / den
  let remainder := num % den
  if 2 * remainder < den ∨ (2 * remainder = den ∧ quotient % 2 = 0) then quotient
  else quotient + 1

/-- The rounded quotient is the quotient or its successor. -/
theorem roundDiv_eq (num den : Nat) :
    roundDiv num den = num / den ∨ roundDiv num den = num / den + 1 := by
  unfold roundDiv
  simp only
  split
  · exact Or.inl rfl
  · exact Or.inr rfl

/-- The rounded quotient is within half of the exact one. -/
theorem roundDiv_bounds {num den : Nat} (positive : 0 < den) :
    2 * (roundDiv num den * den) ≤ 2 * num + den ∧
      2 * num ≤ 2 * (roundDiv num den * den) + den := by
  have split_num : den * (num / den) + num % den = num := Nat.div_add_mod num den
  have remainder_lt : num % den < den := Nat.mod_lt num positive
  have comm : num / den * den = den * (num / den) := Nat.mul_comm ..
  unfold roundDiv
  simp only
  split
  · rename_i h
    rw [comm]
    constructor <;> omega
  · rename_i h
    have succ : (num / den + 1) * den = den * (num / den) + den := by
      rw [Nat.add_mul, Nat.one_mul, comm]
    rw [succ]
    constructor <;> omega

/-- Rounding leaves a multiple of the divisor alone. -/
@[simp] theorem roundDiv_mul_right {n den : Nat} (positive : 0 < den) :
    roundDiv (n * den) den = n := by
  simp [roundDiv, Nat.mul_div_cancel _ positive, Nat.mul_mod_left, positive]

namespace Magnitude

/-- The magnitude of a significand that was rounded at the place `exponent`: a significand of 54
bits is a carry out of 53 ones, and moves the exponent by one. -/
def carry (significand exponent : Nat) : Option Magnitude :=
  if h : significand < Nat.pow 2 53 ∧ exponent ≤ 2045 ∧
      (exponent = 0 ∨ Nat.pow 2 52 ≤ significand) then
    some ⟨significand, exponent, h⟩
  else if h : significand = Nat.pow 2 53 ∧ exponent < 2045 then
    some ⟨Nat.pow 2 52, exponent + 1, ⟨by decide, by omega, Or.inr (Nat.le_refl _)⟩⟩
  else none

/-- A carry keeps the value. -/
theorem units_of_carry {significand exponent : Nat} {m : Magnitude}
    (h : carry significand exponent = some m) : m.units = significand * Nat.pow 2 exponent := by
  unfold carry at h
  split at h
  · cases h; rfl
  · split at h
    · rename_i hs
      cases h
      simp only [units, hs.1]
      simp only [Nat.pow_eq]
      rw [← Nat.pow_add, ← Nat.pow_add, show 52 + (exponent + 1) = 53 + exponent by omega]
    · cases h

/-- The place of the last bit kept of `num / den` units: the quotient has 53 bits above it, or the
place is that of the unit. -/
def lastPlace (num den : Nat) : Nat :=
  (num / den).log2 - 52

/-- The magnitude nearest to `num / den` units, ties to the even significand; `none` if it is too
large for the format. -/
def ofRatio (num den : Nat) : Option Magnitude :=
  carry (roundDiv num (den * Nat.pow 2 (lastPlace num den))) (lastPlace num den)

/-- Nothing is zero. -/
@[simp] theorem ofRatio_zero (den : Nat) (positive : 0 < den) : ofRatio 0 den = some zero := by
  simp [ofRatio, lastPlace, roundDiv, positive, carry, zero]

end Magnitude

/-- The binary64 number of the given sign nearest to `num / den` units: an infinity where the
magnitude is too large for the format. -/
def Binary64.ofRatio (negative : Bool) (num den : Nat) : Binary64 :=
  match Magnitude.ofRatio num den with
  | some m => .finite negative m
  | none => .infinity negative

end Calculator
