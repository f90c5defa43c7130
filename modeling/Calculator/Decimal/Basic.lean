import Calculator.Binary64.Rounding

/-!
# Decimal numbers and the binary64 number nearest to them

A decimal is `coefficient * 10 ^ exponent` (`Decimal`). Its nearest binary64 magnitude is the one
rounding of `Calculator.Binary64.Rounding`, applied to its exact value in units
(`Magnitude.ofDecimal`).

An exponent may be astronomically large while the answer is an infinity or a zero all the same. Two
bounds recognise such an exponent before any power is computed (`Decimal.isHuge`,
`Decimal.isNegligible`): a coefficient other than zero is at least one, so a power above `10 ^ 400`
overflows, and a value below `2 ^ -1076` rounds to zero.
-/

namespace Calculator

/-- The number `coefficient * 10 ^ exponent`. -/
structure Decimal where
  /-- The digits, read as one natural number. -/
  coefficient : Nat
  /-- The power of ten of the last digit. -/
  exponent : Int
deriving DecidableEq

namespace Decimal

/-- The decimal digits of a natural number, most significant first. -/
def digits (n : Nat) : List Char :=
  Nat.toDigits 10 n

/-- The natural number that a list of decimal digits denotes. -/
def ofDigits (text : List Char) : Nat :=
  Nat.ofDigitChars 10 text 0

/-- Digits denote the number they were written for. -/
@[simp] theorem ofDigits_digits (n : Nat) : ofDigits (digits n) = n := by
  simp [ofDigits, digits]

/-- A number is written with decimal digits only. -/
theorem isDigit_of_mem_digits {c : Char} {n : Nat} (h : c ∈ digits n) : c.isDigit = true :=
  Nat.isDigit_of_mem_toDigits (by decide) (by decide) h

/-- The numerator of the decimal's value in units of `2 ^ -1074`. -/
def numerator (d : Decimal) : Nat :=
  d.coefficient * Nat.pow 10 d.exponent.toNat * Magnitude.unitsOfOne

/-- The denominator of the decimal's value in units of `2 ^ -1074`. -/
def denominator (d : Decimal) : Nat :=
  Nat.pow 10 (-d.exponent).toNat

/-- The denominator is a power of ten. -/
theorem denominator_pos (d : Decimal) : 0 < d.denominator :=
  Nat.pow_pos (by decide)

/-- The exponent alone shows that the decimal is too large for the format. -/
def isHuge (d : Decimal) : Bool :=
  d.coefficient ≠ 0 && 400 < d.exponent

/-- The exponent and the length of the coefficient show that the decimal rounds to zero. -/
def isNegligible (d : Decimal) : Bool :=
  d.coefficient = 0 || (d.coefficient.log2 : Int) + 1077 ≤ -3 * d.exponent

end Decimal

/-- The magnitude nearest to a decimal, ties to even; `none` if it is too large for the format. -/
def Magnitude.ofDecimal (d : Decimal) : Option Magnitude :=
  if d.isHuge then none
  else if d.isNegligible then some .zero
  else ofRatio d.numerator d.denominator

/-- The binary64 number of the given sign nearest to a decimal. -/
def Binary64.ofDecimal (negative : Bool) (d : Decimal) : Binary64 :=
  match Magnitude.ofDecimal d with
  | some m => .finite negative m
  | none => .infinity negative

end Calculator
