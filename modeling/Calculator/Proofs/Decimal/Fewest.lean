import Mathlib.Algebra.Order.Ring.Abs
import Calculator.Proofs.Decimal.Length

/-!
# No decimal with fewer digits reads back

The search for digits stops at the coarsest grid that has a point in the interval of the reals that
round to a magnitude, and it takes the nearest point there (`Magnitude.isCoarsest_search`,
`ReadBack.search_nearest`). Here this is compared with all decimals, also with those on finer grids.

* The interval has no gaps, so a decimal with fewer digits would have a power of ten between itself
  and the decimal that was found, on a coarser grid (`IsCoarsest.length_digits_le`).
* One of as many digits is on the same grid, and then it is not nearer. Or it is on a finer one, and
  then both have one digit, and the power of ten between them rounds to the magnitude too. This happens
  to one magnitude only, and the power of ten is nearer to it (`Magnitude.twice_le_of_contains`).

`Magnitude.shortest_fewest` says it of decimals.
-/

namespace Calculator

/-! ## The coarsest grid -/

namespace ReadBack

variable {r : ReadBack} {place factor : Nat}

/-- The interval has no gaps. -/
lemma contains_of_between {low x high : Nat} (hlow : r.contains low = true)
    (hhigh : r.contains high = true) (above : low ≤ x) (below : x ≤ high) :
    r.contains x = true := by
  rw [contains_iff] at hlow hhigh ⊢
  obtain ⟨lower, -, lowOpen⟩ := hlow
  obtain ⟨-, upper, highOpen⟩ := hhigh
  refine ⟨by omega, by omega, fun hopen => ?_⟩
  have := lowOpen hopen
  have := highOpen hopen
  omega

/-- The center is between two neighbouring points of every grid. -/
lemma center_between (r : ReadBack) (place : Nat) :
    r.center / 10 ^ place * 10 ^ place ≤ r.center ∧
      r.center < (r.center / 10 ^ place + 1) * 10 ^ place :=
  ⟨Nat.div_mul_le_self _ _,
    Nat.lt_mul_of_div_lt (Nat.lt_succ_self _) (Nat.pow_pos (by decide))⟩

/-- **A grid is missed only if none of its points is in the interval.** -/
lemma contains_eq_false_of_onGrid? (hcenter : r.contains r.center = true)
    (h : r.onGrid? place = none) (factor : Nat) : r.contains (factor * 10 ^ place) = false := by
  obtain ⟨low, high⟩ := r.center_between place
  have outside : r.contains (r.center / 10 ^ place * 10 ^ place) = false ∧
      r.contains ((r.center / 10 ^ place + 1) * 10 ^ place) = false := by
    unfold onGrid? at h
    simp only [Nat.pow_eq] at h
    split at h <;> cases h
    rename_i hlow hhigh
    exact ⟨hlow, hhigh⟩
  by_contra inside
  rw [Bool.not_eq_false] at inside
  rcases Nat.lt_or_ge (r.center / 10 ^ place) factor with beyond | before
  · have reached := contains_of_between hcenter inside high.le (Nat.mul_le_mul_right _ beyond)
    rw [outside.2] at reached
    cases reached
  · have reached := contains_of_between inside hcenter (Nat.mul_le_mul_right _ before) low
    rw [outside.1] at reached
    cases reached

/-- Two numbers on one side of the center are as far from it as they are apart. -/
lemma abs_sub_le_of_between {center near far : Nat}
    (h : far ≤ near ∧ near ≤ center ∨ center ≤ near ∧ near ≤ far) :
    |(near : Int) - center| ≤ |(far : Int) - center| := by
  rcases h with ⟨hfar, hnear⟩ | ⟨hnear, hfar⟩
  · rw [abs_of_nonpos (by omega), abs_of_nonpos (by omega)]
    omega
  · rw [abs_of_nonneg (by omega), abs_of_nonneg (by omega)]
    omega

/-- The point next to the center on its nearer side is nearest to it. -/
lemma abs_sub_roundDiv_le (place factor : Nat) :
    |((roundDiv r.center (10 ^ place) * 10 ^ place : Nat) : Int) - r.center| ≤
      |((factor * 10 ^ place : Nat) : Int) - r.center| := by
  obtain ⟨le, ge, -⟩ := @isNearest_roundDiv r.center (10 ^ place) (Nat.pow_pos (by decide))
  generalize roundDiv r.center (10 ^ place) = nearest at *
  rcases Nat.lt_trichotomy factor nearest with hless | rfl | hmore
  · have apart := Nat.mul_le_mul_right (10 ^ place) (Nat.succ_le_of_lt hless)
    rw [Nat.succ_mul] at apart
    rcases abs_cases (((nearest * 10 ^ place : Nat) : Int) - r.center) with hnear | hnear <;>
      rcases abs_cases (((factor * 10 ^ place : Nat) : Int) - r.center) with hfar | hfar <;> omega
  · exact le_rfl
  · have apart := Nat.mul_le_mul_right (10 ^ place) (Nat.succ_le_of_lt hmore)
    rw [Nat.succ_mul] at apart
    rcases abs_cases (((nearest * 10 ^ place : Nat) : Int) - r.center) with hnear | hnear <;>
      rcases abs_cases (((factor * 10 ^ place : Nat) : Int) - r.center) with hfar | hfar <;> omega

/-- **What is hit on a grid is the nearest of its points in the interval.** -/
lemma abs_sub_le_of_onGrid? {other : Nat} (hcenter : r.contains r.center = true)
    (h : r.onGrid? place = some factor) (inside : r.contains (other * 10 ^ place) = true) :
    |((factor * 10 ^ place : Nat) : Int) - r.center| ≤
      |((other * 10 ^ place : Nat) : Int) - r.center| := by
  obtain ⟨low, high⟩ := r.center_between place
  unfold onGrid? at h
  simp only [Nat.pow_eq] at h
  split at h <;> cases h
  · exact abs_sub_roundDiv_le place other
  · -- the next point up is outside, so the other one is not above the center
    rename_i hlow hhigh
    have before : other ≤ r.center / 10 ^ place := by
      by_contra beyond
      have reached := contains_of_between hcenter inside high.le
        (Nat.mul_le_mul_right _ (Nat.lt_of_not_le beyond))
      rw [hhigh] at reached
      cases reached
    exact abs_sub_le_of_between (Or.inl ⟨Nat.mul_le_mul_right _ before, low⟩)
  · rename_i hlow hhigh
    have beyond : r.center / 10 ^ place + 1 ≤ other := by
      by_contra before
      have reached := contains_of_between inside hcenter
        (Nat.mul_le_mul_right _ (Nat.le_of_lt_succ (Nat.lt_of_not_le before))) low
      rw [hlow] at reached
      cases reached
    exact abs_sub_le_of_between (Or.inr ⟨high.le, Nat.mul_le_mul_right _ beyond⟩)

/-- **The search passes a grid only if none of its points is in the interval.** -/
lemma contains_eq_false_of_search_lt (hcenter : r.contains r.center = true) {finer : Nat}
    (passed : (r.search place).2 < finer) (below : finer ≤ place) (factor : Nat) :
    r.contains (factor * 10 ^ finer) = false := by
  induction place with
  | zero => omega
  | succ place ih =>
      unfold search at passed
      split at passed
      · omega
      · rename_i missed
        rcases Nat.lt_or_ge place finer with last | further
        · obtain rfl : finer = place + 1 := by omega
          exact contains_eq_false_of_onGrid? hcenter missed factor
        · exact ih passed further

/-- **The search takes the nearest point** of the grid that it stops at. -/
lemma search_nearest (hcenter : r.contains r.center = true) {other : Nat}
    (inside : r.contains (other * 10 ^ (r.search place).2) = true) :
    |(((r.search place).1 * 10 ^ (r.search place).2 : Nat) : Int) - r.center| ≤
      |((other * 10 ^ (r.search place).2 : Nat) : Int) - r.center| := by
  induction place with
  | zero =>
      simp only [search, pow_zero, Nat.mul_one, sub_self, abs_zero]
      exact abs_nonneg _
  | succ place ih =>
      unfold search at inside ⊢
      split
      · rename_i factor hit
        simp only [hit] at inside
        exact abs_sub_le_of_onGrid? hcenter hit inside
      · rename_i missed
        simp only [missed] at inside
        exact ih inside

/-- The search does not go up. -/
lemma search_place_le (r : ReadBack) (place : Nat) : (r.search place).2 ≤ place := by
  induction place with
  | zero => exact le_rfl
  | succ place ih =>
      unfold search
      split
      · exact le_rfl
      · exact ih.trans (Nat.le_succ place)

end ReadBack

/-- What the search for digits is for: a point of an interval on the coarsest grid that has one, and
the nearest to the center there. -/
structure IsCoarsest (r : ReadBack) (factor place : Nat) : Prop where
  /-- It is in the interval. -/
  inside : r.contains (factor * 10 ^ place) = true
  /-- No coarser grid has a point there. -/
  coarsest : ∀ other, r.contains (other * 10 ^ (place + 1)) = false
  /-- No other point of the grid in the interval is nearer to the center. -/
  nearest : ∀ other, r.contains (other * 10 ^ place) = true →
    |((factor * 10 ^ place : Nat) : Int) - r.center| ≤
      |((other * 10 ^ place : Nat) : Int) - r.center|

namespace Magnitude

variable {m : Magnitude} {den factor place : Nat}

/-- The interval around a magnitude is a matter of its last place alone: it reaches no more than half
of it up or down. -/
lemma bounds_of_contains {num : Nat} (h : (m.readBackOver den).contains num = true) :
    2 * (m.significand * (den * 2 ^ m.exponent)) ≤ 2 * num + den * 2 ^ m.exponent ∧
      2 * num ≤ 2 * (m.significand * (den * 2 ^ m.exponent)) + den * 2 ^ m.exponent := by
  obtain ⟨lower, upper, -⟩ := contains_readBackOver_iff.mp h
  refine ⟨?_, upper⟩
  split at lower <;> omega

/-- A magnitude other than zero has a significand. -/
lemma significand_pos (nonzero : m.units ≠ 0) : 0 < m.significand := by
  rw [Nat.pos_iff_ne_zero]
  intro zero
  exact nonzero (by rw [units, zero, Nat.zero_mul])

/-- The center of the interval, by its last place. -/
lemma center_readBackOver (m : Magnitude) (den : Nat) :
    (m.readBackOver den).center = m.significand * (den * 2 ^ m.exponent) := by
  rw [readBackOver, units, Nat.pow_eq]
  ring

/-- **The search finds the nearest point on the coarsest grid.** -/
lemma isCoarsest_search (positive : 0 < den) (nonzero : 0 < m.significand) :
    IsCoarsest (m.readBackOver den)
      ((m.readBackOver den).search (m.readBackOver den).coarsestPlace).1
      ((m.readBackOver den).search (m.readBackOver den).coarsestPlace).2 where
  inside := ReadBack.contains_search (m.contains_center positive) _
  nearest other inside := ReadBack.search_nearest (m.contains_center positive) inside
  coarsest other := by
    have stop := (m.readBackOver den).search_place_le (m.readBackOver den).coarsestPlace
    rcases Nat.lt_or_ge ((m.readBackOver den).search (m.readBackOver den).coarsestPlace).2
      (m.readBackOver den).coarsestPlace with before | first
    · exact ReadBack.contains_eq_false_of_search_lt (m.contains_center positive)
        (Nat.lt_succ_self _) before other
    · -- zero is too small, and ten times a power of ten above the center is too large
      rw [Nat.le_antisymm stop first]
      by_contra inside
      obtain ⟨lower, upper⟩ := bounds_of_contains (Bool.eq_true_of_not_eq_false inside)
      have small := (m.readBackOver den).center_lt_pow_coarsestPlace
      rw [center_readBackOver] at small
      have last : den * 2 ^ m.exponent ≤ m.significand * (den * 2 ^ m.exponent) :=
        Nat.le_mul_of_pos_left _ nonzero
      have scale : 0 < den * 2 ^ m.exponent := Nat.mul_pos positive (Nat.two_pow_pos _)
      rw [pow_succ] at lower upper
      rcases Nat.eq_zero_or_pos other with rfl | some
      · omega
      · have large : 10 ^ (m.readBackOver den).coarsestPlace * 10 ≤
            other * (10 ^ (m.readBackOver den).coarsestPlace * 10) :=
          Nat.le_mul_of_pos_left _ some
        omega

end Magnitude

/-! ## Decimals on other grids -/

namespace IsCoarsest

variable {r : ReadBack} {factor place other finer size : Nat}

/-- In a finer unit the same point is found. -/
lemma scale {m : Magnitude} {den : Nat} (h : IsCoarsest (m.readBackOver den) factor place)
    (finer : Nat) :
    IsCoarsest (m.readBackOver (den * 10 ^ finer)) factor (place + finer) := by
  have positive : 0 < 10 ^ finer := Nat.pow_pos (by decide)
  have shift : ∀ other place, other * 10 ^ (place + finer) = other * 10 ^ place * 10 ^ finer :=
    fun other place => by rw [pow_add, Nat.mul_assoc]
  have center : (m.readBackOver (den * 10 ^ finer)).center =
      (m.readBackOver den).center * 10 ^ finer := (Nat.mul_assoc ..).symm
  have distance : ∀ x y : Nat, |((x * 10 ^ finer : Nat) : Int) - (y * 10 ^ finer : Nat)| =
      |(x : Int) - y| * 10 ^ finer := by
    intro x y
    push_cast
    rw [← sub_mul, abs_mul, abs_of_pos (show (0 : Int) < 10 ^ finer by positivity)]
  refine ⟨?_, fun other => ?_, fun other inside => ?_⟩
  · rw [shift, Magnitude.contains_readBackOver_mul positive]
    exact h.inside
  · rw [Nat.add_right_comm, shift, Magnitude.contains_readBackOver_mul positive]
    exact h.coarsest other
  · rw [shift, Magnitude.contains_readBackOver_mul positive] at inside
    rw [shift, shift, center, distance, distance]
    exact mul_le_mul_of_nonneg_right (h.nearest other inside) (by positivity)

/-- No decimal in the interval is on a coarser grid. -/
lemma place_le (h : IsCoarsest r factor place) (inside : r.contains (other * 10 ^ finer) = true) :
    finer ≤ place := by
  by_contra coarser
  obtain ⟨more, rfl⟩ := Nat.exists_eq_add_of_lt (Nat.not_le.mp coarser)
  have missed := h.coarsest (other * 10 ^ more)
  rw [Nat.mul_assoc, ← pow_add, show more + (place + 1) = place + more + 1 by omega] at missed
  rw [missed] at inside
  cases inside

/-- No power of ten in the interval is on a coarser grid. -/
lemma size_eq_zero (h : IsCoarsest r factor place)
    (inside : r.contains (10 ^ size * 10 ^ place) = true) : size = 0 := by
  rw [← pow_add, ← Nat.one_mul (10 ^ (size + place))] at inside
  have bound := h.place_le inside
  omega

/-- What was found is not zero, if zero is outside. -/
lemma factor_ne_zero (h : IsCoarsest r factor place) (outside : r.contains 0 = false) :
    factor ≠ 0 := by
  rintro rfl
  have inside := h.inside
  rw [Nat.zero_mul, outside] at inside
  cases inside

/-- **No decimal in the interval has fewer digits.** A power of ten with as many zeros would be
between it and the one that was found. -/
lemma length_digits_le (h : IsCoarsest r factor place) (outside : r.contains 0 = false)
    (inside : r.contains (other * 10 ^ finer) = true) :
    (Decimal.digits factor).length ≤ (Decimal.digits other).length := by
  by_contra fewer
  have power : 10 ^ (Decimal.digits other).length ≤ factor :=
    Decimal.pow_le_of_lt_length_digits (h.factor_ne_zero outside) (Nat.not_le.mp fewer)
  have below : other * 10 ^ finer ≤ 10 ^ (Decimal.digits other).length * 10 ^ place :=
    Nat.mul_le_mul (Decimal.lt_pow_length_digits other).le
      (Nat.pow_le_pow_right (by decide) (h.place_le inside))
  have between := ReadBack.contains_of_between inside h.inside below
    (Nat.mul_le_mul_right _ power)
  exact absurd (h.size_eq_zero between) (Decimal.length_digits_pos other).ne'

/-- A decimal in the interval with as many digits as the one that was found is on the same grid, or
both have one digit, and the power of ten between them is in the interval. -/
lemma same_place_or_single (h : IsCoarsest r factor place) (outside : r.contains 0 = false)
    (inside : r.contains (other * 10 ^ finer) = true)
    (same : (Decimal.digits other).length = (Decimal.digits factor).length) :
    finer = place ∨ finer < place ∧ other < 10 ∧ r.contains (1 * 10 ^ place) = true := by
  rcases Nat.lt_or_ge finer place with below | above
  · right
    obtain ⟨size, hsize⟩ := Nat.exists_eq_add_one.mpr (Decimal.length_digits_pos other)
    have short : other < 10 ^ (size + 1) := by
      rw [← hsize]
      exact Decimal.lt_pow_length_digits other
    have power : 10 ^ size ≤ factor :=
      Decimal.pow_le_of_lt_length_digits (h.factor_ne_zero outside) (by omega)
    have less : other * 10 ^ finer ≤ 10 ^ size * 10 ^ place := by
      calc other * 10 ^ finer ≤ 10 ^ (size + 1) * 10 ^ finer := Nat.mul_le_mul_right _ short.le
        _ = 10 ^ size * 10 ^ (finer + 1) := by ring
        _ ≤ 10 ^ size * 10 ^ place :=
            Nat.mul_le_mul_left _ (Nat.pow_le_pow_right (by decide) below)
    have between := ReadBack.contains_of_between inside h.inside less (Nat.mul_le_mul_right _ power)
    obtain rfl := h.size_eq_zero between
    exact ⟨below, short, between⟩
  · exact Or.inl (Nat.le_antisymm (h.place_le inside) above)

end IsCoarsest

namespace Magnitude

variable {m : Magnitude} {num den : Nat}

/-- Zero rounds to no other magnitude. -/
lemma contains_zero (positive : 0 < den) (nonzero : 0 < m.significand) :
    (m.readBackOver den).contains 0 = false := by
  by_contra inside
  obtain ⟨lower, -⟩ := bounds_of_contains (Bool.eq_true_of_not_eq_false inside)
  have scale : 0 < den * 2 ^ m.exponent := Nat.mul_pos positive (Nat.two_pow_pos _)
  have last : den * 2 ^ m.exponent ≤ m.significand * (den * 2 ^ m.exponent) :=
    Nat.le_mul_of_pos_left _ nonzero
  omega

/-- The least positive number is a little less than five times a power of ten. The exponent is kept
apart, lest the power be computed. -/
lemma exists_power_near_unit {places : Nat} (h : places = 1074) :
    ∃ top, 19 * 10 ^ top ≤ 4 * 5 ^ places ∧ 5 ^ places < 5 * 10 ^ top := by
  subst h
  exact ⟨750, by decide +kernel, by decide +kernel⟩

/-- **A magnitude between nine tenths of a power of ten and the power itself is nearer to the power**,
if both round to it. It has one decimal digit, so it is a small multiple of the least positive
number, and twice the latter is the only one. -/
lemma twice_le_of_contains {places finer place : Nat} (hplaces : places = 1074)
    (nonzero : 0 < m.significand)
    (nine : (m.readBackOver (5 ^ places * 10 ^ finer)).contains (9 * 10 ^ place) = true)
    (ten : (m.readBackOver (5 ^ places * 10 ^ finer)).contains (10 * 10 ^ place) = true)
    (less : (m.readBackOver (5 ^ places * 10 ^ finer)).center < 10 * 10 ^ place) :
    19 * 10 ^ place ≤ 2 * (m.readBackOver (5 ^ places * 10 ^ finer)).center := by
  obtain ⟨lower, -⟩ := bounds_of_contains nine
  obtain ⟨-, upper⟩ := bounds_of_contains ten
  rw [center_readBackOver] at less ⊢
  have single : m.significand < 10 := by
    by_contra many
    have := Nat.mul_le_mul_right (5 ^ places * 10 ^ finer * 2 ^ m.exponent) (Nat.not_lt.mp many)
    omega
  have bottom : m.exponent = 0 := by
    have full := m.canonical.2.2
    rw [Nat.pow_eq] at full
    omega
  obtain ⟨top, atLeast, atMost⟩ := exists_power_near_unit hplaces
  have above : 19 * 10 ^ (top + finer) ≤ 4 * (5 ^ places * 10 ^ finer) := by
    rw [pow_add, ← Nat.mul_assoc, ← Nat.mul_assoc]
    exact Nat.mul_le_mul_right _ atLeast
  have below : 5 ^ places * 10 ^ finer < 5 * 10 ^ (top + finer) := by
    rw [pow_add, ← Nat.mul_assoc]
    exact Nat.mul_lt_mul_of_pos_right atMost (Nat.pow_pos (by decide))
  rw [bottom, pow_zero, Nat.mul_one] at lower upper less ⊢
  generalize 5 ^ places * 10 ^ finer = unit at *
  rcases Nat.lt_trichotomy place (top + finer) with small | rfl | large
  · -- the power of ten would be less than one unit
    have powers : 10 ^ (place + 1) ≤ 10 ^ (top + finer) := Nat.pow_le_pow_right (by decide) small
    have first := Nat.le_mul_of_pos_left unit nonzero
    rw [pow_succ] at powers
    omega
  · have two : 2 ≤ m.significand := by
      by_contra one
      obtain one : m.significand = 1 := by omega
      rw [one] at upper
      omega
    have second := Nat.mul_le_mul_right unit two
    omega
  · -- the power of ten would be more than ten units
    have powers : 10 ^ (top + finer + 1) ≤ 10 ^ place := Nat.pow_le_pow_right (by decide) large
    rw [pow_succ] at powers
    omega

/-- **No decimal with as many digits is nearer to a magnitude** than the one that was found, if both
round to it. -/
lemma abs_sub_le_of_same_length {places finer factor place other otherPlace : Nat}
    (hplaces : places = 1074) (nonzero : 0 < m.significand)
    (h : IsCoarsest (m.readBackOver (5 ^ places * 10 ^ finer)) factor place)
    (inside : (m.readBackOver (5 ^ places * 10 ^ finer)).contains (other * 10 ^ otherPlace) = true)
    (same : (Decimal.digits other).length = (Decimal.digits factor).length) :
    |((factor * 10 ^ place : Nat) : Int) - (m.readBackOver (5 ^ places * 10 ^ finer)).center| ≤
      |((other * 10 ^ otherPlace : Nat) : Int) -
        (m.readBackOver (5 ^ places * 10 ^ finer)).center| := by
  have positive : 0 < 5 ^ places * 10 ^ finer :=
    Nat.mul_pos (Nat.pow_pos (by decide)) (Nat.pow_pos (by decide))
  rcases h.same_place_or_single (contains_zero positive nonzero) inside same with
    rfl | ⟨below, single, power⟩
  · exact h.nearest other inside
  · refine (h.nearest 1 power).trans ?_
    obtain ⟨before, rfl⟩ := Nat.exists_eq_add_one.mpr (Nat.zero_lt_of_lt below)
    have most : other * 10 ^ otherPlace ≤ 9 * 10 ^ before :=
      Nat.mul_le_mul (Nat.le_of_lt_succ single) (Nat.pow_le_pow_right (by decide) (by omega))
    have step : 1 * 10 ^ (before + 1) = 10 * 10 ^ before := by
      rw [Nat.one_mul, pow_succ, Nat.mul_comm]
    rw [step] at power ⊢
    rcases Nat.lt_or_ge (m.readBackOver (5 ^ places * 10 ^ finer)).center (10 * 10 ^ before) with
      less | more
    · have nine := ReadBack.contains_of_between inside power most (by omega)
      have twice := twice_le_of_contains hplaces nonzero nine power less
      rw [abs_of_nonneg (by omega), abs_of_nonpos (by omega)]
      omega
    · exact ReadBack.abs_sub_le_of_between (Or.inl ⟨by omega, more⟩)

end Magnitude

end Calculator
