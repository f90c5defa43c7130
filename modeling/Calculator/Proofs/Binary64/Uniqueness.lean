import Calculator.Proofs.Binary64.Rational

/-!
# A rational number rounds to one number

`Binary64.Rounds` says of a number that no other one is preferred to it. Here it is shown to leave no
choice: what a quotient rounds to is the answer of the rounding (`Binary64.eq_ofRatio_of_rounds`).

Two numbers that are both preferred to each other are as far from the quotient, on its two sides, and
both have an even significand. But the one that surrounds the quotient reaches no farther than to the
middle between itself and the next number, so the other one is that next number, and the significands
of neighbours are not both even (`Magnitude.odd_of_next_above`, `Magnitude.odd_of_next_below`). Below
a power of two the neighbour has a place of its own, with all bits set.
-/

namespace Calculator

namespace Magnitude

/-- A magnitude is determined by its value. -/
lemma eq_of_units_eq {m n : Magnitude} (h : m.units = n.units) : m = n := by
  have hm := ofRatio_of_contains one_pos (m.contains_center one_pos)
  have hn := ofRatio_of_contains one_pos (n.contains_center one_pos)
  simp only [readBackOver, h] at hm hn
  exact Option.some.inj (hm.symm.trans hn)

/-- The next magnitude above one with an even significand has an odd one. -/
lemma odd_of_next_above {m n : Magnitude} (even : m.significand % 2 = 0)
    (next : 2 * n.units = 2 * m.units + m.gapAbove) : n.significand % 2 = 1 := by
  obtain ⟨short, low, full⟩ := m.canonical
  have fits : m.significand + 1 < Nat.pow 2 53 := by
    rw [Nat.pow_eq] at short ⊢
    omega
  let above : Magnitude :=
    ⟨m.significand + 1, m.exponent, fits, low, full.imp_right Nat.le_succ_of_le⟩
  have same : n.units = above.units := by
    have value : above.units = m.units + 2 ^ m.exponent := Nat.succ_mul ..
    have gap : m.gapAbove = 2 * 2 ^ m.exponent := rfl
    omega
  rw [eq_of_units_eq same]
  show (m.significand + 1) % 2 = 1
  omega

/-- The next magnitude below one with an even significand has an odd one. -/
lemma odd_of_next_below {m n : Magnitude} (even : m.significand % 2 = 0)
    (next : 2 * n.units + m.gapBelow = 2 * m.units) : n.significand % 2 = 1 := by
  obtain ⟨short, low, full⟩ := m.canonical
  have value : m.units = m.significand * 2 ^ m.exponent := rfl
  unfold gapBelow at next
  split at next
  · -- below a power of two stand 53 set bits, at the place before
    rename_i power
    obtain ⟨place, hplace⟩ := Nat.exists_eq_succ_of_ne_zero power.2.ne'
    let below : Magnitude :=
      ⟨Nat.pow 2 53 - 1, place, by decide, by omega, Or.inr (by decide)⟩
    have same : n.units = below.units := by
      have bits : below.units = (2 ^ 53 - 1) * 2 ^ place := rfl
      have double : 2 ^ m.exponent = 2 * 2 ^ place := by rw [hplace, pow_succ, Nat.mul_comm]
      rw [value, power.1, Nat.pow_eq, Nat.pow_eq, double] at next
      omega
    rw [eq_of_units_eq same]
    show (Nat.pow 2 53 - 1) % 2 = 1
    decide
  · rename_i inside
    have scale := Nat.two_pow_pos m.exponent
    obtain ⟨before, hbefore⟩ : ∃ before, m.significand = before + 1 := by
      apply Nat.exists_eq_succ_of_ne_zero
      intro zero
      rw [value, zero, Nat.zero_mul, Nat.pow_eq] at next
      omega
    have kept : m.exponent = 0 ∨ Nat.pow 2 52 ≤ before := by
      rw [Nat.pow_eq] at full inside ⊢
      omega
    let below : Magnitude := ⟨before, m.exponent, by omega, low, kept⟩
    have same : n.units = below.units := by
      have bits : m.units = below.units + 2 ^ m.exponent := by
        rw [value, hbefore]
        exact Nat.succ_mul ..
      rw [Nat.pow_eq] at next
      omega
    rw [eq_of_units_eq same]
    show before % 2 = 1
    omega

/-- A magnitude that is as near to a quotient as the one that surrounds it is this one, if it has an
even significand. -/
lemma eq_of_dist_eq {m n : Magnitude} {num den : Nat} (positive : 0 < den)
    (h : (m.readBackOver den).contains num = true)
    (same : |(num : Int) - (m.units * den : Nat)| = |(num : Int) - (n.units * den : Nat)|)
    (even : n.units ≠ m.units → n.significand % 2 = 0) : n = m := by
  apply eq_of_units_eq
  by_contra other
  have evenSelf := (dist_le_of_contains positive h n).2 other same
  obtain ⟨lower, upper, -⟩ := ReadBack.contains_iff.mp h
  simp only [readBackOver] at lower upper
  have apart : m.units * den ≠ n.units * den :=
    fun heq => other (Nat.eq_of_mul_eq_mul_right positive heq.symm)
  -- the quotient is in the middle
  have middle : 2 * num = m.units * den + n.units * den := by
    rcases abs_eq_abs.mp same with heq | heq <;> omega
  have odd : n.significand % 2 = 1 := by
    rcases Nat.lt_or_gt_of_ne other with hless | hless
    · have gap := gap_below hless
      apply odd_of_next_below evenSelf
      have reach : 2 * m.units * den ≤ (2 * n.units + m.gapBelow) * den := by
        rw [Nat.add_mul, Nat.mul_assoc, Nat.mul_assoc]
        omega
      have := Nat.le_of_mul_le_mul_right reach positive
      omega
    · have gap := gap_above hless
      apply odd_of_next_above evenSelf
      have reach : 2 * n.units * den ≤ (2 * m.units + m.gapAbove) * den := by
        rw [Nat.add_mul, Nat.mul_assoc, Nat.mul_assoc]
        omega
      have := Nat.le_of_mul_le_mul_right reach positive
      omega
  have := even other
  omega

end Magnitude

namespace Binary64

/-- A number without a sign has the value of its magnitude. -/
lemma rational?_positive (m : Magnitude) : rational? (.finite false m) = some m.rational := by
  simp only [rational?, Bool.false_eq_true, if_false]

/-- A finite answer of the rounding has the magnitude that was found. -/
lemma magnitude_of_ofRatio {negative : Bool} {num den : Nat} {m : Magnitude}
    (h : ofRatio negative num den = .finite negative m) : Magnitude.ofRatio num den = some m := by
  unfold ofRatio at h
  split at h
  · rename_i found
    rw [found, (finite.inj h).2]
  · cases h

/-- **What a quotient rounds to is the answer of the rounding**, so it rounds to one number. -/
theorem eq_ofRatio_of_rounds {num den : Nat} {x : Binary64} (positive : 0 < den)
    (h : Rounds (num / (den * Magnitude.unitsOfOne)) x) : x = ofRatio false num den := by
  have answer := @rounds_ofRatio num den positive
  rcases lt_or_ge ((num : ℚ) / (den * Magnitude.unitsOfOne)) (2 ^ 1024 - 2 ^ 970) with below | above
  · obtain ⟨m, hm, -⟩ := answer.nearest below
    obtain ⟨n, rfl, among⟩ := h.nearest below
    have surrounds := Magnitude.contains_of_ofRatio positive (magnitude_of_ofRatio hm)
    have preferred := among _ _ (rational?_positive m)
    have least := (Magnitude.preferredTo_of_contains positive surrounds n).near
    have same := le_antisymm least preferred.near
    have even : n.units ≠ m.units → n.significand % 2 = 0 := by
      intro other
      refine preferred.tie ?_ same.symm
      rw [ne_eq, Magnitude.rational_inj]
      exact other.symm
    have scale : (0 : ℚ) < den * Magnitude.unitsOfOne :=
      mul_pos (Nat.cast_pos.mpr positive) Magnitude.unitsOfOne_pos
    rw [Magnitude.abs_sub_rational positive, Magnitude.abs_sub_rational positive,
      div_left_inj' scale.ne', Int.cast_inj] at same
    rw [hm, Magnitude.eq_of_dist_eq positive surrounds same even]
  · rw [h.infinite.mpr above, answer.infinite.mpr above]

end Binary64

end Calculator
