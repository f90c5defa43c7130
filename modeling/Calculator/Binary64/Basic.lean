/-!
# Binary64 numbers

The numbers that the calculator computes with: the binary interchange format of 64 bits, held by
its parts and not by its word, so that every fact about a value is a fact about natural numbers.

* A finite magnitude is `significand * 2 ^ exponent` **units**, where the unit is the least positive
  number `2 ^ -1074` (`Magnitude.units`). The field `canonical` says that the significand has at
  most 53 bits, that it has all 53 unless the exponent is zero, and that the exponent stays below
  the one that would overflow. Two magnitudes of equal units are therefore equal parts.
* A number is not a number, an infinity with a sign or a finite magnitude with a sign; the two zeros
  differ by their sign (`Binary64`).
-/

namespace Calculator

/-- A finite magnitude: `significand * 2 ^ exponent` units of `2 ^ -1074`. -/
structure Magnitude where
  /-- The integer significand, of at most 53 bits. -/
  significand : Nat
  /-- The exponent of two, counted from that of the least positive number. -/
  exponent : Nat
  /-- The one representation that the format has of this value. -/
  canonical : significand < Nat.pow 2 53 ∧ exponent ≤ 2045 ∧
    (exponent = 0 ∨ Nat.pow 2 52 ≤ significand)
deriving DecidableEq

namespace Magnitude

/-- The magnitude in units of `2 ^ -1074`. -/
def units (m : Magnitude) : Nat :=
  m.significand * Nat.pow 2 m.exponent

/-- How many units make one. -/
def unitsOfOne : Nat := Nat.pow 2 1074

/-- The magnitude zero. -/
def zero : Magnitude :=
  ⟨0, 0, by decide⟩

/-- Zero has no units. -/
@[simp] theorem units_zero : zero.units = 0 := rfl

/-- The largest finite magnitude. -/
def largest : Magnitude :=
  ⟨Nat.pow 2 53 - 1, 2045, by decide⟩

/-- The significand and the exponent determine a magnitude. -/
theorem ext {m n : Magnitude} (significand : m.significand = n.significand)
    (exponent : m.exponent = n.exponent) : m = n := by
  cases m; cases n; simp_all

/-- Only zero has no units. -/
theorem units_eq_zero_iff {m : Magnitude} : m.units = 0 ↔ m = zero := by
  constructor
  · intro h
    have hs : m.significand = 0 := by
      rcases Nat.mul_eq_zero.1 h with hs | hp
      · exact hs
      · exact absurd hp (Nat.ne_of_gt (Nat.two_pow_pos _))
    have he : m.exponent = 0 := by
      rcases m.canonical.2.2 with he | hn
      · exact he
      · rw [hs] at hn
        exact absurd hn (by decide)
    exact ext hs he
  · rintro rfl
    rfl

end Magnitude

/-- A binary64 number. -/
inductive Binary64
  /-- Not a number. -/
  | nan
  /-- An infinity. -/
  | infinity (negative : Bool)
  /-- A finite number; zero has a sign too. -/
  | finite (negative : Bool) (magnitude : Magnitude)
deriving DecidableEq

namespace Binary64

/-- The positive zero. -/
def zero : Binary64 := .finite false .zero

/-- The number one. -/
def one : Binary64 := .finite false ⟨Nat.pow 2 52, 1022, by decide⟩

/-- Whether the number is a zero, of either sign. -/
def isZero : Binary64 → Bool
  | .finite _ m => m.units == 0
  | _ => false

/-- Whether the number is finite. -/
def isFinite : Binary64 → Bool
  | .finite _ _ => true
  | _ => false

/-- Whether the sign bit is set; what is not a number has no sign. -/
def isNegative : Binary64 → Bool
  | .nan => false
  | .infinity negative => negative
  | .finite negative _ => negative

/-- The opposite number. -/
def neg : Binary64 → Binary64
  | .nan => .nan
  | .infinity negative => .infinity !negative
  | .finite negative m => .finite (!negative) m

/-- The opposite of the opposite is the number itself. -/
@[simp] theorem neg_neg (x : Binary64) : x.neg.neg = x := by
  cases x <;> simp [neg]

/-- The value of a finite number in units of `2 ^ -1074`. -/
def signedUnits (negative : Bool) (m : Magnitude) : Int :=
  if negative then -(m.units : Int) else m.units

end Binary64

end Calculator
