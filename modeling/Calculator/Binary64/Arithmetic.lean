import Calculator.Binary64.Rounding

/-!
# Arithmetic on binary64 numbers

Each operation computes the exact result in units of `2 ^ -1074` and rounds it once, to nearest with
ties to even. The cases without an exact finite result follow the standard of the format:

* a sum of opposite infinities, a product of zero and an infinity, a quotient of two zeros or of two
  infinities are not a number, and so is any result of what is not a number;
* an exact sum of zero is positive, unless both terms are negative (`add`);
* the sign of a product and of a quotient is the product of the signs, the sign of a zero included
  (`mul`, `div`).

Division is total: a divisor of zero gives an infinity, and no operation fails.
-/

namespace Calculator.Binary64

/-- The finite sum of two signed magnitudes. An exact sum of zero is negative only where both terms
are. -/
def addFinite (negative : Bool) (m : Magnitude) (negative' : Bool) (m' : Magnitude) : Binary64 :=
  let sum := signedUnits negative m + signedUnits negative' m'
  if sum = 0 then .finite (negative && negative') .zero
  else ofRatio (sum < 0) sum.natAbs 1

/-- Addition. -/
def add : Binary64 → Binary64 → Binary64
  | .nan, _ | _, .nan => .nan
  | .infinity s, .infinity s' => if s = s' then .infinity s else .nan
  | .infinity s, .finite _ _ => .infinity s
  | .finite _ _, .infinity s => .infinity s
  | .finite s m, .finite s' m' => addFinite s m s' m'

/-- Subtraction adds the opposite. -/
def sub (x y : Binary64) : Binary64 :=
  add x y.neg

/-- Multiplication. -/
def mul : Binary64 → Binary64 → Binary64
  | .nan, _ | _, .nan => .nan
  | .infinity s, .infinity s' => .infinity (s != s')
  | .infinity s, .finite s' m => if m.units = 0 then .nan else .infinity (s != s')
  | .finite s m, .infinity s' => if m.units = 0 then .nan else .infinity (s != s')
  | .finite s m, .finite s' m' =>
      ofRatio (s != s') (m.units * m'.units) Magnitude.unitsOfOne

/-- Division. A zero divided by a zero is not a number, and any other number divided by a zero is an
infinity. -/
def div : Binary64 → Binary64 → Binary64
  | .nan, _ | _, .nan => .nan
  | .infinity _, .infinity _ => .nan
  | .infinity s, .finite s' _ => .infinity (s != s')
  | .finite s _, .infinity s' => .finite (s != s') .zero
  | .finite s m, .finite s' m' =>
      if m'.units = 0 then
        if m.units = 0 then .nan else .infinity (s != s')
      else ofRatio (s != s') (m.units * Magnitude.unitsOfOne) m'.units

/-- The order of the terms does not matter to a sum. -/
theorem add_comm (x y : Binary64) : add x y = add y x := by
  cases x <;> cases y <;> simp only [add]
  · rename_i s t
    by_cases h : s = t
    · simp [h]
    · simp [h, Ne.symm h]
  · rename_i s m t n
    simp only [addFinite, Int.add_comm (signedUnits s m), Bool.and_comm s]

/-- The order of the factors does not matter to a product. -/
theorem mul_comm (x y : Binary64) : mul x y = mul y x := by
  cases x <;> cases y <;> simp only [mul, Nat.mul_comm, bne_comm]

/-- A zero divisor gives an infinity with the product of the signs, unless the dividend is a zero or
not a number. -/
theorem div_zero {negative : Bool} (x : Binary64) :
    div x (.finite negative .zero) =
      if x = .nan ∨ x.isZero then .nan else .infinity (x.isNegative != negative) := by
  cases x with
  | nan => simp [div]
  | infinity s => simp [div, isZero, isNegative]
  | finite s m => by_cases h : m.units = 0 <;> simp [div, isZero, isNegative, h]

end Calculator.Binary64
