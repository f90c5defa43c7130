import Mathlib.Tactic.Common
import Mathlib.Tactic.Linarith
import Mathlib.Tactic.Ring
import Calculator.Decimal.Shortest

/-!
# Which quotients round to a magnitude

`roundDiv` is one of two neighbours by its definition; here it is pinned down by what it is for:
`IsNearest num den n` says that no natural number is nearer to `num / den` than `n`, and that `n` is
even if another one is as near, and there is exactly one such `n` (`roundDiv_eq_iff`).

A magnitude is surrounded by the quotients that round to it, `Magnitude.readBackOver` for a given
denominator.

* **Rounding answers with the magnitude that surrounds the quotient**
  (`Magnitude.ofRatio_eq_some_iff`), in both directions. Below a power of two the interval is narrower
  by half, which is where a quotient is rounded at a place of its own and carried up.
* Hence the answer depends on the quotient alone, not on how it is written
  (`Magnitude.ofRatio_congr`).
-/

namespace Calculator

/-! ## Natural numbers -/

/-- A natural number to which a quotient rounds: it is within half of the quotient, and even where it
is just half away. -/
structure IsNearest (num den n : Nat) : Prop where
  /-- It is at most half more. -/
  le : 2 * (n * den) ≤ 2 * num + den
  /-- It is at most half less. -/
  ge : 2 * num ≤ 2 * (n * den) + den
  /-- An odd number is nearer than half. -/
  tie : n % 2 = 1 → 2 * (n * den) ≠ 2 * num + den ∧ 2 * num ≠ 2 * (n * den) + den

/-- A quotient rounds to one number only. -/
lemma IsNearest.unique {num den n n' : Nat} (positive : 0 < den) (h : IsNearest num den n)
    (h' : IsNearest num den n') : n = n' := by
  -- of two different ones the greater is just one more, and the odd one of them is no tie
  have apart : ∀ {a b : Nat}, IsNearest num den a → IsNearest num den b → ¬ a < b := by
    intro a b ha hb hlt
    have near : b * den ≤ (a + 1) * den := by
      rw [Nat.add_mul, Nat.one_mul]
      have upper := hb.le
      have lower := ha.ge
      omega
    obtain rfl : b = a + 1 := by
      have le : b ≤ a + 1 := Nat.le_of_mul_le_mul_right near positive
      omega
    have upper := hb.le
    have lower := ha.ge
    have tie := ha.tie
    have tie' := hb.tie
    rw [Nat.add_mul, Nat.one_mul] at upper tie'
    omega
  exact Nat.le_antisymm (Nat.not_lt.mp (apart h' h)) (Nat.not_lt.mp (apart h h'))

/-- The rounded quotient is nearest. -/
lemma isNearest_roundDiv {num den : Nat} (positive : 0 < den) :
    IsNearest num den (roundDiv num den) := by
  obtain ⟨le, ge⟩ := @roundDiv_bounds num den positive
  refine ⟨le, ge, ?_⟩
  have whole : num / den * den + num % den = num := Nat.div_add_mod' num den
  have remainder : num % den < den := Nat.mod_lt num positive
  unfold roundDiv
  simp only
  split
  · rename_i hdown
    omega
  · rename_i hup
    rw [Nat.add_mul, Nat.one_mul]
    omega

/-- Rounding answers with the nearest number. -/
lemma roundDiv_eq_iff {num den n : Nat} (positive : 0 < den) :
    roundDiv num den = n ↔ IsNearest num den n := by
  constructor
  · rintro rfl
    exact isNearest_roundDiv positive
  · exact (isNearest_roundDiv positive).unique positive

/-! ## The interval around a magnitude -/

namespace ReadBack

/-- A number is in the interval if it lies between the bounds, and on none of them unless they belong
to it. -/
lemma contains_iff {r : ReadBack} {x : Nat} :
    r.contains x = true ↔ 4 * r.center ≤ 4 * x + r.below ∧ 4 * x ≤ 4 * r.center + r.above ∧
      (r.closed = false → 4 * r.center ≠ 4 * x + r.below ∧ 4 * x ≠ 4 * r.center + r.above) := by
  unfold contains
  split
  · rename_i hclosed
    simp [hclosed]
  · rename_i hopen
    simp only [hopen, Bool.and_eq_true, decide_eq_true_eq, ne_eq, true_implies]
    omega

end ReadBack

namespace Magnitude

/-- The quotients with the given denominator that round to the magnitude, by their numerators. -/
def readBackOver (m : Magnitude) (den : Nat) : ReadBack where
  center := m.units * den
  below := m.gapBelow * den
  above := m.gapAbove * den
  closed := m.significand % 2 == 0

/-- In units of `10 ^ -1074` the interval is the one of the search; the exponent is kept apart, lest
the power be computed. -/
lemma exists_readBack (m : Magnitude) :
    ∃ places, places = 1074 ∧ m.readBack = m.readBackOver (Nat.pow 5 places) :=
  ⟨1074, rfl, by rw [readBack, readBackOver, tenfold]⟩

/-- The interval around a magnitude, by its last place: it reaches half of it up and half of it down,
or a quarter of it below a power of two. -/
lemma contains_readBackOver_iff {m : Magnitude} {num den : Nat} :
    (m.readBackOver den).contains num = true ↔
      4 * (m.significand * (den * 2 ^ m.exponent)) ≤ 4 * num +
          (if m.significand = 2 ^ 52 ∧ 0 < m.exponent then den * 2 ^ m.exponent
            else 2 * (den * 2 ^ m.exponent)) ∧
        2 * num ≤ 2 * (m.significand * (den * 2 ^ m.exponent)) + den * 2 ^ m.exponent ∧
        (m.significand % 2 = 1 →
          2 * (m.significand * (den * 2 ^ m.exponent)) ≠ 2 * num + den * 2 ^ m.exponent ∧
          2 * num ≠ 2 * (m.significand * (den * 2 ^ m.exponent)) + den * 2 ^ m.exponent) := by
  have center : m.units * den = m.significand * (den * 2 ^ m.exponent) := by
    rw [units, Nat.pow_eq]
    ring
  have above : m.gapAbove * den = 2 * (den * 2 ^ m.exponent) := by
    rw [gapAbove, Nat.pow_eq]
    ring
  have below : m.gapBelow * den =
      if m.significand = 2 ^ 52 ∧ 0 < m.exponent then den * 2 ^ m.exponent
      else 2 * (den * 2 ^ m.exponent) := by
    rw [gapBelow, Nat.pow_eq, Nat.pow_eq]
    split <;> ring
  rw [ReadBack.contains_iff, readBackOver]
  simp only [center, above, below, beq_eq_false_iff_ne]
  generalize den * 2 ^ m.exponent = last
  generalize m.significand * last = value
  split
  · rename_i hpower
    have even : m.significand % 2 = 0 := by
      rw [hpower.1]
      decide
    omega
  · omega

/-- The interval scales with the denominator. -/
lemma contains_readBackOver_mul {c : Nat} (positive : 0 < c) (m : Magnitude) (num den : Nat) :
    (m.readBackOver (den * c)).contains (num * c) = (m.readBackOver den).contains num := by
  have le_iff : ∀ a b : Nat, a * c ≤ b * c ↔ a ≤ b := fun a b =>
    ⟨fun h => Nat.le_of_mul_le_mul_right h positive, fun h => Nat.mul_le_mul_right c h⟩
  have eq_iff : ∀ a b : Nat, a * c = b * c ↔ a = b := fun a b =>
    ⟨fun h => Nat.eq_of_mul_eq_mul_right positive h, fun h => by rw [h]⟩
  have lower : 4 * (m.units * (den * c)) = 4 * (m.units * den) * c := by ring
  have point : 4 * (num * c) = 4 * num * c := by ring
  have below : 4 * num * c + m.gapBelow * (den * c) = (4 * num + m.gapBelow * den) * c := by ring
  have above : 4 * (m.units * den) * c + m.gapAbove * (den * c) =
      (4 * (m.units * den) + m.gapAbove * den) * c := by ring
  rw [Bool.eq_iff_iff, ReadBack.contains_iff, ReadBack.contains_iff]
  simp only [readBackOver, lower, point, below, above, le_iff, ne_eq, eq_iff]

/-! ## Rounding to a magnitude -/

/-- A quotient with its 53 leading bits at a place is rounded there. -/
lemma lastPlace_eq {num den place : Nat} (positive : 0 < den) (hupper : num < 2 ^ 53 * (den * 2 ^ place))
    (hlower : place = 0 ∨ 2 ^ 52 * (den * 2 ^ place) ≤ num) : lastPlace num den = place := by
  have upper : num / den < 2 ^ (53 + place) := by
    rw [Nat.div_lt_iff_lt_mul positive, pow_add]
    linarith
  unfold lastPlace
  rcases Nat.eq_zero_or_pos (num / den) with hzero | hpos
  · rw [hzero, Nat.log2_zero]
    rcases hlower with rfl | hlower
    · rfl
    · have atLeast : 2 ^ (52 + place) ≤ num / den := by
        rw [Nat.le_div_iff_mul_le positive, pow_add]
        linarith
      have := Nat.two_pow_pos (52 + place)
      omega
  · have log_lt : (num / den).log2 < 53 + place := (Nat.log2_lt hpos.ne').mpr upper
    rcases hlower with rfl | hlower
    · omega
    · have atLeast : 2 ^ (52 + place) ≤ num / den := by
        rw [Nat.le_div_iff_mul_le positive, pow_add]
        linarith
      have le_log : 52 + place ≤ (num / den).log2 := (Nat.le_log2 hpos.ne').mpr atLeast
      omega

/-- A quotient that is rounded at a place other than the last one has 53 bits there. -/
lemma le_of_lastPlace {num den : Nat} (positive : 0 < den) (hplace : 0 < lastPlace num den) :
    2 ^ 52 * (den * 2 ^ lastPlace num den) ≤ num := by
  have nonzero : num / den ≠ 0 := by
    intro hzero
    simp [lastPlace, hzero] at hplace
  have atLeast : 2 ^ (52 + lastPlace num den) ≤ num / den := by
    rw [← Nat.le_log2 nonzero]
    unfold lastPlace at *
    omega
  rw [Nat.le_div_iff_mul_le positive, pow_add] at atLeast
  linarith

/-- What a significand of 53 bits is carried to. -/
lemma carry_of_canonical (m : Magnitude) : carry m.significand m.exponent = some m := by
  rw [carry, dif_pos m.canonical]

/-- What a power of two of one bit more is carried to. -/
lemma carry_of_power {m : Magnitude} {place : Nat} (hsignificand : m.significand = 2 ^ 52)
    (hexponent : m.exponent = place + 1) : carry (2 ^ 53) place = some m := by
  have bound : place < 2045 := by
    have := m.canonical.2.1
    omega
  rw [carry, dif_neg (by simp), dif_pos ⟨rfl, bound⟩, Option.some.injEq]
  exact ext hsignificand.symm hexponent.symm

/-- The answer of the rounding surrounds the quotient. -/
lemma contains_of_ofRatio {num den : Nat} {m : Magnitude} (positive : 0 < den)
    (h : ofRatio num den = some m) : (m.readBackOver den).contains num = true := by
  have scale : 0 < den * 2 ^ lastPlace num den :=
    Nat.mul_pos positive (Nat.two_pow_pos _)
  have nearest := @isNearest_roundDiv num _ scale
  rw [contains_readBackOver_iff]
  unfold ofRatio carry at h
  rw [Nat.pow_eq] at h
  split at h
  · cases h
    simp only
    refine ⟨?_, nearest.ge, nearest.tie⟩
    split
    · rename_i hpower
      have lower := le_of_lastPlace positive hpower.2
      rw [hpower.1]
      omega
    · have le := nearest.le
      omega
  · split at h <;> cases h
    rename_i hcarry
    have rounded : roundDiv num (den * 2 ^ lastPlace num den) = 2 ^ 53 := hcarry.1
    have le := nearest.le
    have ge := nearest.ge
    rw [rounded] at le ge
    have double : den * 2 ^ (lastPlace num den + 1) = 2 * (den * 2 ^ lastPlace num den) := by
      rw [pow_succ]
      ring
    simp only [double, Nat.pow_eq]
    refine ⟨?_, ?_, ?_⟩
    · rw [if_pos ⟨trivial, Nat.succ_pos _⟩]
      omega
    · omega
    · omega

/-- A quotient that rounds to a magnitude is less than the next power of two. -/
lemma lt_of_contains {num den : Nat} {m : Magnitude} (positive : 0 < den)
    (h : (m.readBackOver den).contains num = true) : num < 2 ^ 53 * (den * 2 ^ m.exponent) := by
  have scale : 0 < den * 2 ^ m.exponent := Nat.mul_pos positive (Nat.two_pow_pos _)
  have atMost : (m.significand + 1) * (den * 2 ^ m.exponent) ≤ 2 ^ 53 * (den * 2 ^ m.exponent) :=
    Nat.mul_le_mul_right _ m.canonical.1
  rw [contains_readBackOver_iff] at h
  obtain ⟨-, upper, -⟩ := h
  rw [Nat.add_mul, Nat.one_mul] at atMost
  omega

/-- A magnitude that surrounds the quotient is the answer of the rounding. -/
lemma ofRatio_of_contains {num den : Nat} {m : Magnitude} (positive : 0 < den)
    (h : (m.readBackOver den).contains num = true) : ofRatio num den = some m := by
  have full := m.canonical.2.2
  rw [Nat.pow_eq] at full
  have hupper := lt_of_contains positive h
  have scale : 0 < den * 2 ^ m.exponent := Nat.mul_pos positive (Nat.two_pow_pos _)
  rw [contains_readBackOver_iff] at h
  obtain ⟨lower, upper, tie⟩ := h
  by_cases hlower : m.exponent = 0 ∨ 2 ^ 52 * (den * 2 ^ m.exponent) ≤ num
  · have nearest : IsNearest num (den * 2 ^ m.exponent) m.significand := by
      refine ⟨?_, upper, tie⟩
      split at lower <;> omega
    rw [ofRatio, lastPlace_eq positive hupper hlower, Nat.pow_eq, (roundDiv_eq_iff scale).mpr nearest,
      carry_of_canonical]
  · -- just below a power of two: rounded at the place before, and carried up again
    rw [not_or, Nat.not_le] at hlower
    obtain ⟨hexponent, hlower⟩ := hlower
    obtain ⟨place, hplace⟩ := Nat.exists_eq_succ_of_ne_zero hexponent
    have power : m.significand = 2 ^ 52 := by
      have atLeast := full.resolve_left hexponent
      by_contra hne
      rw [if_neg (by omega)] at lower
      have more : (2 ^ 52 + 1) * (den * 2 ^ m.exponent) ≤ m.significand * (den * 2 ^ m.exponent) :=
        Nat.mul_le_mul_right _ (by omega)
      rw [Nat.add_mul, Nat.one_mul] at more
      omega
    have double : den * 2 ^ m.exponent = 2 * (den * 2 ^ place) := by
      rw [hplace, pow_succ]
      ring
    have scale' : 0 < den * 2 ^ place := Nat.mul_pos positive (Nat.two_pow_pos _)
    rw [if_pos ⟨power, Nat.pos_of_ne_zero hexponent⟩, power, double] at lower
    rw [double] at hlower
    have nearest : IsNearest num (den * 2 ^ place) (2 ^ 53) := ⟨by omega, by omega, by omega⟩
    have atPlace : lastPlace num den = place :=
      lastPlace_eq positive (by omega) (Or.inr (by omega))
    rw [ofRatio, atPlace, Nat.pow_eq, (roundDiv_eq_iff scale').mpr nearest]
    exact carry_of_power power hplace

/-- **Rounding answers with the magnitude that surrounds the quotient.** -/
theorem ofRatio_eq_some_iff {num den : Nat} {m : Magnitude} (positive : 0 < den) :
    ofRatio num den = some m ↔ (m.readBackOver den).contains num = true :=
  ⟨contains_of_ofRatio positive, ofRatio_of_contains positive⟩

/-- Rounding depends on the quotient, not on how it is written. -/
theorem ofRatio_congr {num den num' den' : Nat} (positive : 0 < den) (positive' : 0 < den')
    (same : num * den' = num' * den) : ofRatio num den = ofRatio num' den' := by
  ext m
  rw [ofRatio_eq_some_iff positive, ofRatio_eq_some_iff positive',
    ← contains_readBackOver_mul positive' m num den, ← contains_readBackOver_mul positive m num' den',
    same, Nat.mul_comm den den']

end Magnitude

end Calculator
