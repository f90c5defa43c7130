import Mathlib.Data.Nat.Log
import Calculator.Proofs.Decimal.ReadBack

/-!
# How long a written number is

The interval of the reals that round to a magnitude is at least as wide as three quarters of the
last place, and a grid that is finer than the interval has a point in it
(`ReadBack.onGrid?_isSome`). So the search for digits stops at the finest such grid at the latest,
and from there it is no more than eighteen digits up to the magnitude
(`Magnitude.shortest_bounds`). In plain form a number therefore stays short
(`Binary64.length_plainForm_le`).
-/

namespace Calculator

/-! ## Where the search stops -/

namespace ReadBack

variable {r : ReadBack} {place factor : Nat}

/-- **A grid that is finer than the interval hits it**, on one side of the center or on the other. -/
lemma onGrid?_isSome (reaches : 0 < r.above) (h : 4 * 10 ^ place < r.below + r.above) :
    (r.onGrid? place).isSome = true := by
  have positive : 0 < 10 ^ place := Nat.pow_pos (by decide)
  have low : r.center / 10 ^ place * 10 ^ place ≤ r.center := Nat.div_mul_le_self _ _
  have high : r.center < (r.center / 10 ^ place + 1) * 10 ^ place :=
    Nat.lt_mul_of_div_lt (Nat.lt_succ_self _) positive
  have step : (r.center / 10 ^ place + 1) * 10 ^ place =
      r.center / 10 ^ place * 10 ^ place + 10 ^ place := Nat.succ_mul _ _
  have hit : r.contains (r.center / 10 ^ place * 10 ^ place) = true ∨
      r.contains ((r.center / 10 ^ place + 1) * 10 ^ place) = true := by
    have inside : ∀ x, 4 * r.center < 4 * x + r.below → 4 * x < 4 * r.center + r.above →
        r.contains x = true := fun x above below =>
      contains_iff.mpr ⟨above.le, below.le, fun _ => ⟨above.ne, below.ne⟩⟩
    rw [step] at high ⊢
    generalize r.center / 10 ^ place * 10 ^ place = point at *
    rcases Nat.lt_or_ge (4 * r.center) (4 * point + r.below) with near | far
    · exact Or.inl (inside point near (by omega))
    · exact Or.inr (inside _ (by omega) (by omega))
  unfold onGrid?
  simp only [Nat.pow_eq]
  rcases hit with hit | hit
  · rw [hit]
    cases r.contains ((r.center / 10 ^ place + 1) * 10 ^ place) <;> rfl
  · rw [hit]
    cases r.contains (r.center / 10 ^ place * 10 ^ place) <;> rfl

/-- What is hit on a grid is next to the center. -/
lemma le_of_onGrid? (h : r.onGrid? place = some factor) : factor ≤ r.center / 10 ^ place + 1 := by
  unfold onGrid? at h
  simp only [Nat.pow_eq] at h
  split at h <;> cases h
  · rcases roundDiv_eq r.center (10 ^ place) with down | up
    · omega
    · omega
  · omega
  · omega

/-- **The search does not go beyond a grid that is hit.** -/
lemma search_le {finest : Nat} (positive : 0 < finest)
    (hit : (r.onGrid? finest).isSome = true) (h : finest ≤ place) :
    (r.search place).1 ≤ r.center / 10 ^ finest + 1 ∧ (r.search place).2 ≤ place := by
  induction place, h using Nat.le_induction with
  | base =>
      obtain ⟨last, rfl⟩ := Nat.exists_eq_add_one.mpr positive
      obtain ⟨factor, hfactor⟩ := Option.isSome_iff_exists.mp hit
      simp only [search, hfactor]
      exact ⟨le_of_onGrid? hfactor, le_rfl⟩
  | succ place hplace ih =>
      unfold search
      split
      · rename_i factor hfactor
        refine ⟨(le_of_onGrid? hfactor).trans ?_, le_rfl⟩
        have finer : 10 ^ finest ≤ 10 ^ (place + 1) := Nat.pow_le_pow_right (by decide) (by omega)
        exact Nat.succ_le_succ (Nat.div_le_div_left finer (Nat.pow_pos (by decide)))
      · exact ⟨ih.1, ih.2.trans (Nat.le_succ place)⟩

/-- At the coarsest place a power of ten exceeds the center. -/
lemma center_lt_pow_coarsestPlace (r : ReadBack) : r.center < 10 ^ r.coarsestPlace := by
  have bits : r.center < 2 ^ (r.center.log2 + 1) := Nat.lt_log2_self
  unfold coarsestPlace
  generalize r.center.log2 + 1 = size at *
  have exponent : 28 * size ≤ 93 * (size * 28 / 93 + 1) := by omega
  have chain : (2 ^ size) ^ 93 ≤ (10 ^ (size * 28 / 93 + 1)) ^ 93 := by
    calc (2 ^ size) ^ 93 = (2 ^ 93) ^ size := by rw [← pow_mul, ← pow_mul, Nat.mul_comm]
      _ ≤ (10 ^ 28) ^ size := Nat.pow_le_pow_left (by norm_num) size
      _ = 10 ^ (28 * size) := by rw [← pow_mul]
      _ ≤ 10 ^ (93 * (size * 28 / 93 + 1)) := Nat.pow_le_pow_right (by decide) exponent
      _ = (10 ^ (size * 28 / 93 + 1)) ^ 93 := by rw [← pow_mul, Nat.mul_comm]
  exact bits.trans_le ((Nat.pow_le_pow_iff_left (by decide)).mp chain)

/-- Powers of ten up to the center are those of the places from the coarsest one down. -/
lemma le_coarsestPlace (h : 10 ^ place ≤ r.center) : place ≤ r.coarsestPlace :=
  ((Nat.pow_lt_pow_iff_right (by decide)).mp (h.trans_lt r.center_lt_pow_coarsestPlace)).le

end ReadBack

namespace Magnitude

/-- The interval is no narrower than three quarters of the last place, and no wider than a whole
one. -/
lemma gaps (m : Magnitude) :
    3 * 2 ^ m.exponent ≤ m.gapBelow + m.gapAbove ∧
      m.gapBelow + m.gapAbove ≤ 4 * 2 ^ m.exponent := by
  simp only [gapBelow, gapAbove, Nat.pow_eq]
  generalize 2 ^ m.exponent = last
  split_ifs <;> omega

/-- The finest grid that need be searched: it is finer than the interval, and the next one is not. -/
lemma exists_finest (width : Nat) (h : 41 ≤ width) :
    ∃ finest, 0 < finest ∧ 4 * 10 ^ finest < width ∧ width ≤ 40 * 10 ^ finest := by
  refine ⟨Nat.log 10 ((width - 1) / 4), ?_, ?_, ?_⟩
  · exact Nat.log_pos (by decide) (by omega)
  · have below := Nat.pow_log_le_self 10 (x := (width - 1) / 4) (by omega)
    omega
  · have above := Nat.lt_pow_succ_log_self (b := 10) (by decide) ((width - 1) / 4)
    rw [pow_succ] at above
    omega

/-- **The search ends within eighteen digits** of the center, in whichever unit it is done. -/
lemma search_readBackOver {m : Magnitude} {den : Nat} (nonzero : 0 < m.significand)
    (fine : 125 ≤ den) :
    ((m.readBackOver den).search (m.readBackOver den).coarsestPlace).1 < 10 ^ 18 ∧
      ((m.readBackOver den).search (m.readBackOver den).coarsestPlace).2 ≤
        (m.readBackOver den).coarsestPlace := by
  have short := m.canonical.1
  have positive : 1 ≤ 2 ^ m.exponent := Nat.one_le_two_pow
  have wide : 125 ≤ 2 ^ m.exponent * den := fine.trans (Nat.le_mul_of_pos_left den positive)
  have center : (m.readBackOver den).center = m.significand * (2 ^ m.exponent * den) := by
    rw [readBackOver, units, Nat.pow_eq, Nat.mul_assoc]
  have above : (m.readBackOver den).above = 2 * (2 ^ m.exponent * den) := by
    rw [readBackOver, gapAbove, Nat.pow_eq, Nat.mul_assoc]
  have width : 3 * (2 ^ m.exponent * den) ≤
        (m.readBackOver den).below + (m.readBackOver den).above ∧
      (m.readBackOver den).below + (m.readBackOver den).above ≤ 4 * (2 ^ m.exponent * den) := by
    obtain ⟨lower, upper⟩ := m.gaps
    simp only [readBackOver, ← Nat.add_mul, ← Nat.mul_assoc]
    exact ⟨Nat.mul_le_mul_right den lower, Nat.mul_le_mul_right den upper⟩
  generalize m.readBackOver den = r at *
  generalize 2 ^ m.exponent * den = last at *
  obtain ⟨finest, hpositive, finer, coarse⟩ := exists_finest (r.below + r.above) (by omega)
  have inside : 10 ^ finest ≤ r.center := by
    have first : 1 * last ≤ r.center := by
      rw [center]
      exact Nat.mul_le_mul_right last nonzero
    omega
  have hit := ReadBack.onGrid?_isSome (by omega) finer
  obtain ⟨digits, place⟩ := ReadBack.search_le hpositive hit (ReadBack.le_coarsestPlace inside)
  refine ⟨digits.trans_lt ?_, place⟩
  -- the significand has 53 bits, and the last place has no more than fourteen steps of the grid
  have bound : r.center < 10 ^ finest * (2 ^ 53 * 14) := by
    calc r.center = m.significand * last := center
      _ < 2 ^ 53 * last := Nat.mul_lt_mul_of_pos_right short (by omega)
      _ ≤ 2 ^ 53 * (10 ^ finest * 14) := Nat.mul_le_mul_left _ (by omega)
      _ = 10 ^ finest * (2 ^ 53 * 14) := by ring
  have quotient := Nat.div_lt_of_lt_mul bound
  omega

/-- Few bits have few decimal places. -/
lemma coarsestPlace_le {r : ReadBack} {size : Nat} (some : 0 < size) (h : r.center < 2 ^ size) :
    r.coarsestPlace ≤ size * 28 / 93 + 1 := by
  unfold ReadBack.coarsestPlace
  rcases Nat.eq_zero_or_pos r.center with zero | positive
  · rw [zero, Nat.log2_zero]
    omega
  · have log := (Nat.log2_lt positive.ne').mpr h
    omega

/-- The digits of a magnitude that is not zero are those that the search hits. -/
lemma shortest_eq {m : Magnitude} (h : m.units ≠ 0) :
    m.shortest = ⟨(m.readBack.search m.readBack.coarsestPlace).1,
      ((m.readBack.search m.readBack.coarsestPlace).2 : Int) - 1074⟩ := by
  rw [shortest, if_neg h]

/-- **No magnitude is written with more than eighteen digits**, and none of them is far from the
point. -/
lemma shortest_bounds (m : Magnitude) :
    m.shortest.coefficient < 10 ^ 18 ∧ -1074 ≤ m.shortest.exponent ∧
      m.shortest.exponent < 1000 := by
  -- the search is kept apart, lest it be carried out
  have placed : ∀ (d : Decimal) (hit : Nat × Nat), d = ⟨hit.1, (hit.2 : Int) - 1074⟩ →
      hit.1 < 10 ^ 18 → hit.2 ≤ 1603 →
        d.coefficient < 10 ^ 18 ∧ -1074 ≤ d.exponent ∧ d.exponent < 1000 := by
    rintro d hit rfl digits place
    simp only
    omega
  by_cases nonzero : m.units = 0
  · rw [shortest, if_pos nonzero]
    exact ⟨by decide, by decide, by decide⟩
  · have some : 0 < m.significand := by
      rw [Nat.pos_iff_ne_zero]
      intro zero
      exact nonzero (by rw [units, zero, Nat.zero_mul])
    obtain ⟨places, hplaces, hreadBack⟩ := m.exists_readBack
    have fine : 125 ≤ Nat.pow 5 places := by
      have more : 5 ^ 3 ≤ 5 ^ places := Nat.pow_le_pow_right (by decide) (by omega)
      exact more
    have limit : (53 + m.exponent + 3 * places) * 28 / 93 + 1 ≤ 1603 := by
      have exponent := m.canonical.2.1
      omega
    have bits :
        (m.readBackOver (Nat.pow 5 places)).center < 2 ^ (53 + m.exponent + 3 * places) := by
      calc m.significand * Nat.pow 2 m.exponent * Nat.pow 5 places
          < 2 ^ 53 * 2 ^ m.exponent * 5 ^ places := by
            refine Nat.mul_lt_mul_of_pos_right ?_ (Nat.pow_pos (by decide))
            exact Nat.mul_lt_mul_of_pos_right m.canonical.1 (Nat.two_pow_pos _)
        _ ≤ 2 ^ 53 * 2 ^ m.exponent * 8 ^ places :=
            Nat.mul_le_mul_left _ (Nat.pow_le_pow_left (by decide) _)
        _ = 2 ^ (53 + m.exponent + 3 * places) := by
            rw [pow_add, pow_add, pow_mul]
            rfl
    obtain ⟨digits, place⟩ := search_readBackOver some fine
    have coarsest := coarsestPlace_le (by omega) bits
    rw [← hreadBack] at digits place coarsest
    exact placed _ _ (shortest_eq nonzero) digits (place.trans (coarsest.trans limit))

end Magnitude

/-! ## Lengths -/

namespace Decimal

/-- In positional form, zeros fill up what is missing on either side of the point. -/
lemma length_positional_le {digits : List Char} (h : digits.length ≤ 18) (point : Int)
    (low : -3 ≤ point) (high : point ≤ 16) : (positional digits point).length ≤ 23 := by
  unfold positional
  split_ifs
  · simp only [List.length_cons, List.length_append, List.length_replicate]
    omega
  · simp only [List.length_append, List.length_replicate, List.length_cons, List.length_nil]
    omega
  · simp only [List.length_append, List.length_cons, List.length_take, List.length_drop]
    omega

/-- A power of ten of four digits takes six characters at most. -/
lemma length_powerMark_le {power : Int} (h : power.natAbs < 10 ^ 4) :
    (powerMark power).length ≤ 6 := by
  have digits := (length_digits_le_iff (by decide)).mpr h
  unfold powerMark
  simp only [List.length_cons]
  split_ifs
  · simp only [List.length_cons]
    omega
  · omega

/-- In exponential form, a point and the power of ten are added to the digits. -/
lemma length_exponential_le (digits : List Char) (power : Int) :
    (exponential digits power).length ≤ digits.length + 1 + (powerMark power).length := by
  unfold exponential
  split
  · omega
  · simp only [List.length_cons, List.length_nil]
    omega
  · simp only [List.length_append, List.length_cons]
    omega

/-- A decimal of eighteen digits that is not far from the point is short in plain form. -/
lemma length_plainForm_le {d : Decimal} (digits : d.coefficient < 10 ^ 18)
    (low : -1074 ≤ d.exponent) (high : d.exponent < 1000) : d.plainForm.length ≤ 25 := by
  have size := (length_digits_le_iff (by decide)).mpr digits
  have power : d.leadingPower.natAbs < 10 ^ 4 := by
    unfold leadingPower
    omega
  unfold plainForm
  simp only
  split_ifs with positional
  · have length := length_positional_le size (d.leadingPower + 1)
      (by unfold leastPositional at positional; omega)
      (by unfold firstExponential at positional; omega)
    omega
  · have length := length_exponential_le (Decimal.digits d.coefficient) d.leadingPower
    have mark := length_powerMark_le power
    omega

end Decimal

/-- **In plain form every number is short.** -/
theorem Binary64.length_plainForm_le (x : Binary64) : x.plainForm.length ≤ 26 := by
  have sign (negative : Bool) : (signMark negative).length ≤ 1 := by cases negative <;> decide
  cases x with
  | nan => decide
  | infinity negative => cases negative <;> decide
  | finite negative m =>
      obtain ⟨digits, low, high⟩ := m.shortest_bounds
      have length := Decimal.length_plainForm_le digits low high
      have mark := sign negative
      rw [plainForm, List.length_append]
      omega

end Calculator
