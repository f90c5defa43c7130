import Calculator.Decimal.Basic

/-!
# The shortest decimal that reads back

A positive magnitude is shown by the decimal with the fewest digits that rounds to it, and of those
by the nearest one.

Everything is counted in the unit `10 ^ -1074`, in which every finite magnitude is a whole number
(`Magnitude.tenfold`), and the bounds of the interval of reals that round to the magnitude are whole
numbers of quarters of that unit (`ReadBack`). The bounds themselves round to the magnitude exactly
when its significand is even, since a tie goes to the even one. Below a power of two the neighbours
are twice as dense, so the interval is narrower on that side (`Magnitude.gapBelow`).

On the grid of the multiples of `10 ^ place` only the two neighbours of the magnitude can be the
nearest one inside the interval, so `ReadBack.onGrid?` looks at these two. The search walks the
grids from a coarse one to finer ones and takes the first hit. On the finest grid, of place zero,
the magnitude itself is a point, so the search ends there at the latest.
-/

namespace Calculator

/-- The reals that round to a magnitude, around its value `center` in units of `10 ^ -1074`. They
reach `below` quarters of the unit down and `above` quarters up, the two ends included when `closed`
is set. -/
structure ReadBack where
  /-- The value of the magnitude. -/
  center : Nat
  /-- How far the interval reaches down, in quarters. -/
  below : Nat
  /-- How far the interval reaches up, in quarters. -/
  above : Nat
  /-- Whether the two ends belong to the interval. -/
  closed : Bool
deriving DecidableEq

namespace ReadBack

/-- Whether `x` units round to the magnitude. -/
def contains (r : ReadBack) (x : Nat) : Bool :=
  if r.closed then 4 * r.center ≤ 4 * x + r.below && 4 * x ≤ 4 * r.center + r.above
  else 4 * r.center < 4 * x + r.below && 4 * x < 4 * r.center + r.above

/-- The multiple of `10 ^ place` nearest to the center, by its factor, among the two around the
center that round to the magnitude. -/
def onGrid? (r : ReadBack) (place : Nat) : Option Nat :=
  let step := Nat.pow 10 place
  let low := r.center / step
  match r.contains (low * step), r.contains ((low + 1) * step) with
  | true, true => some (roundDiv r.center step)
  | true, false => some low
  | false, true => some (low + 1)
  | false, false => none

/-- The first hit on the grids from the place `place` down, with its place. On the last grid the
center is a point. -/
def search (r : ReadBack) : (place : Nat) → Nat × Nat
  | 0 => (r.center, 0)
  | place + 1 =>
      match r.onGrid? (place + 1) with
      | some factor => (factor, place + 1)
      | none => r.search place

/-- A place at which a power of ten exceeds every number of the interval: ninety-three bits are at
most twenty-eight digits. -/
def coarsestPlace (r : ReadBack) : Nat :=
  (r.center.log2 + 1) * 28 / 93 + 1

end ReadBack

namespace Magnitude

/-- The magnitude in units of `10 ^ -1074`. -/
def tenfold (m : Magnitude) : Nat :=
  m.units * Nat.pow 5 1074

/-- Half the distance to the next magnitude, in quarters of a unit of `2 ^ -1074`. -/
def gapAbove (m : Magnitude) : Nat :=
  2 * Nat.pow 2 m.exponent

/-- Half the distance to the magnitude before, in quarters of a unit of `2 ^ -1074`: below a power
of two the neighbours are twice as dense, except at the bottom of the format. -/
def gapBelow (m : Magnitude) : Nat :=
  if m.significand = Nat.pow 2 52 ∧ 0 < m.exponent then Nat.pow 2 m.exponent
  else 2 * Nat.pow 2 m.exponent

/-- The reals that round to the magnitude. -/
def readBack (m : Magnitude) : ReadBack where
  center := m.tenfold
  below := m.gapBelow * Nat.pow 5 1074
  above := m.gapAbove * Nat.pow 5 1074
  closed := m.significand % 2 == 0

/-- The decimal with the fewest digits that rounds to the magnitude, and of those the nearest. -/
def shortest (m : Magnitude) : Decimal :=
  if m.units = 0 then ⟨0, 0⟩
  else
    let hit := m.readBack.search m.readBack.coarsestPlace
    ⟨hit.1, (hit.2 : Int) - 1074⟩

end Magnitude

end Calculator
