import Mathlib.Algebra.Order.Ring.Rat
import Mathlib.Algebra.Order.Field.Basic
import Mathlib.Data.Rat.Cast.Order
import Mathlib.Tactic.FieldSimp
import Calculator.Proofs.Decimal.ReadBack

/-!
# Rounding, said of rational numbers

What it means that a binary64 number is the one that a rational number rounds to
(`Binary64.Rounds`): it is an infinity from the threshold on and nowhere else, it is zero up to half
of the least positive number and nowhere else, and below the threshold no finite number is nearer and
none is as near unless the significand is even (`Magnitude.PreferredTo`).

* Different magnitudes are apart by a gap that depends on either of them (`Magnitude.gap_above`,
  `Magnitude.gap_below`). So a magnitude that surrounds a quotient is nearest to it, which is a
  matter of whole numbers (`Magnitude.dist_le_of_contains`).
* The rounding fails from the threshold on (`Magnitude.ofRatio_eq_none_iff`).
* Hence **the rounding of the library rounds** (`Binary64.rounds_ofRatio`), and so does the reading
  of decimals (`Binary64.rounds_ofDecimal`).
-/

namespace Calculator

namespace Magnitude

/-! ## Gaps between magnitudes -/

/-- A magnitude is a multiple of any place up to its last one. -/
lemma exists_units_eq_mul {place : Nat} {n : Magnitude} (h : place ≤ n.exponent) :
    ∃ factor, n.units = factor * 2 ^ place := by
  obtain ⟨more, hmore⟩ := Nat.exists_eq_add_of_le h
  refine ⟨n.significand * 2 ^ more, ?_⟩
  rw [units, Nat.pow_eq, hmore, pow_add]
  ring

/-- Multiples of a place are apart by one unit of it. -/
lemma add_le_of_mul_lt {a b place : Nat} (h : a * 2 ^ place < b * 2 ^ place) :
    a * 2 ^ place + 2 ^ place ≤ b * 2 ^ place := by
  have less : a + 1 ≤ b := Nat.lt_of_mul_lt_mul_right h
  calc a * 2 ^ place + 2 ^ place = (a + 1) * 2 ^ place := by ring
    _ ≤ b * 2 ^ place := Nat.mul_le_mul_right _ less

/-- A power of two lies between magnitudes with different last places. -/
lemma units_le_of_exponent_lt {m n : Magnitude} {place : Nat} (hm : m.exponent = place + 1)
    (hn : n.exponent ≤ place) :
    n.units + 2 ^ place ≤ 2 ^ 53 * 2 ^ place ∧ 2 ^ 53 * 2 ^ place ≤ m.units := by
  have short : n.significand + 1 ≤ 2 ^ 53 := n.canonical.1
  have full : 2 ^ 52 ≤ m.significand := m.canonical.2.2.resolve_left (by omega)
  have powers : 2 ^ n.exponent ≤ 2 ^ place := Nat.pow_le_pow_right (by decide) hn
  constructor
  · calc n.units + 2 ^ place ≤ n.significand * 2 ^ place + 2 ^ place :=
          Nat.add_le_add_right (Nat.mul_le_mul_left _ powers) _
      _ = (n.significand + 1) * 2 ^ place := by ring
      _ ≤ 2 ^ 53 * 2 ^ place := Nat.mul_le_mul_right _ short
  · calc 2 ^ 53 * 2 ^ place = 2 ^ 52 * 2 ^ (place + 1) := by ring
      _ ≤ m.significand * 2 ^ (place + 1) := Nat.mul_le_mul_right _ full
      _ = m.units := by rw [units, hm, Nat.pow_eq]

/-- A greater magnitude is greater by the gap at least. -/
lemma gap_above {m n : Magnitude} (h : m.units < n.units) :
    2 * m.units + m.gapAbove ≤ 2 * n.units := by
  have hm : m.units = m.significand * 2 ^ m.exponent := rfl
  have gap : m.gapAbove = 2 * 2 ^ m.exponent := rfl
  by_cases hplaces : m.exponent ≤ n.exponent
  · obtain ⟨factor, hfactor⟩ := exists_units_eq_mul hplaces
    rw [hm, hfactor] at h
    have apart := add_le_of_mul_lt h
    rw [hm, hfactor, gap]
    omega
  · obtain ⟨place, hplace⟩ := Nat.exists_eq_add_of_lt (Nat.not_le.mp hplaces)
    obtain ⟨small, large⟩ := @units_le_of_exponent_lt m n (n.exponent + place) hplace (by omega)
    omega

/-- A smaller magnitude is smaller by the gap at least. -/
lemma gap_below {m n : Magnitude} (h : n.units < m.units) :
    2 * n.units + m.gapBelow ≤ 2 * m.units := by
  have hm : m.units = m.significand * 2 ^ m.exponent := rfl
  have gap : m.gapBelow = if m.significand = 2 ^ 52 ∧ 0 < m.exponent then 2 ^ m.exponent
      else 2 * 2 ^ m.exponent := rfl
  by_cases hplaces : m.exponent ≤ n.exponent
  · obtain ⟨factor, hfactor⟩ := exists_units_eq_mul hplaces
    rw [hm, hfactor] at h
    have apart := add_le_of_mul_lt h
    rw [hm, hfactor, gap]
    split <;> omega
  · obtain ⟨place, hplace⟩ := Nat.exists_eq_add_of_lt (Nat.not_le.mp hplaces)
    obtain ⟨small, large⟩ := @units_le_of_exponent_lt m n (n.exponent + place) hplace (by omega)
    have double : 2 ^ m.exponent = 2 * 2 ^ (n.exponent + place) := by
      rw [hplace, pow_succ, Nat.mul_comm]
    rw [gap, double]
    split
    · omega
    · -- not a power of two, so one unit of the last place more than one
      rename_i hpower
      have full : 2 ^ 52 ≤ m.significand := m.canonical.2.2.resolve_left (by omega)
      have more : 2 ^ 52 + 1 ≤ m.significand := by omega
      have scaled := Nat.mul_le_mul_right (2 * 2 ^ (n.exponent + place)) more
      rw [hm, double]
      omega

/-- Of two numbers, one on this side of the middle is nearer to the first. -/
lemma dist_le_of_two_mul_le {x first second : Int} (less : first < second)
    (near : 2 * x ≤ first + second) :
    |x - first| ≤ |x - second| ∧ (|x - first| = |x - second| → 2 * x = first + second) := by
  rcases abs_cases (x - first) with hfirst | hfirst <;>
    rcases abs_cases (x - second) with hsecond | hsecond <;> omega

/-- **A magnitude that surrounds a quotient is nearest to it**, and its significand is even if
another one is as near. -/
lemma dist_le_of_contains {m : Magnitude} {num den : Nat} (positive : 0 < den)
    (h : (m.readBackOver den).contains num = true) (n : Magnitude) :
    |(num : Int) - (m.units * den : Nat)| ≤ |(num : Int) - (n.units * den : Nat)| ∧
      (n.units ≠ m.units →
        |(num : Int) - (m.units * den : Nat)| = |(num : Int) - (n.units * den : Nat)| →
          m.significand % 2 = 0) := by
  obtain ⟨lower, upper, tie⟩ := ReadBack.contains_iff.mp h
  simp only [readBackOver, beq_eq_false_iff_ne] at lower upper tie
  rcases Nat.lt_trichotomy m.units n.units with hless | hsame | hless
  · have gap := Nat.mul_le_mul_right den (gap_above hless)
    have between := Nat.mul_lt_mul_of_pos_right hless positive
    rw [Nat.add_mul, Nat.mul_assoc, Nat.mul_assoc] at gap
    obtain ⟨near, middle⟩ := @dist_le_of_two_mul_le num (m.units * den : Nat) (n.units * den : Nat)
      (by omega) (by omega)
    refine ⟨near, fun _ same => ?_⟩
    have exact := middle same
    by_contra odd
    omega
  · rw [hsame]
    exact ⟨le_rfl, fun hne => absurd rfl hne⟩
  · have gap := Nat.mul_le_mul_right den (gap_below hless)
    have between := Nat.mul_lt_mul_of_pos_right hless positive
    rw [Nat.add_mul, Nat.mul_assoc, Nat.mul_assoc] at gap
    obtain ⟨near, middle⟩ := @dist_le_of_two_mul_le (-num) (-(m.units * den : Nat))
      (-(n.units * den : Nat)) (by omega) (by omega)
    rw [← neg_sub', ← neg_sub', abs_neg, abs_neg] at near middle
    refine ⟨near, fun _ same => ?_⟩
    have exact := middle same
    by_contra odd
    omega

/-! ## Overflow and underflow -/

/-- A quotient has at most 53 bits above the last place kept. -/
lemma lt_of_lastPlace {num den : Nat} (positive : 0 < den) :
    num < 2 ^ 53 * (den * 2 ^ lastPlace num den) := by
  have bits : num / den < 2 ^ (53 + lastPlace num den) := by
    calc num / den < 2 ^ ((num / den).log2 + 1) := Nat.lt_log2_self
      _ ≤ 2 ^ (53 + lastPlace num den) := by
          apply Nat.pow_le_pow_right (by decide)
          unfold lastPlace
          omega
  rw [Nat.div_lt_iff_lt_mul positive, pow_add] at bits
  linarith

/-- A rounded quotient of 53 bits at a place of the format is a magnitude, and so is one that was
rounded up to 54 bits before the last place. -/
lemma carry_ne_none {significand place : Nat} (short : significand ≤ 2 ^ 53) (low : place ≤ 2045)
    (full : place = 0 ∨ 2 ^ 52 ≤ significand) (fits : place = 2045 → significand ≠ 2 ^ 53) :
    carry significand place ≠ none := by
  by_cases carried : significand = 2 ^ 53
  · have before : place < 2045 := by omega
    rw [carried, carry, dif_neg (by simp), dif_pos ⟨rfl, before⟩]
    exact Option.some_ne_none _
  · have kept : significand < 2 ^ 53 := by omega
    rw [carry, dif_pos ⟨kept, low, full⟩]
    exact Option.some_ne_none _

/-- A quotient below the threshold rounds to a magnitude: at no place beyond the last one of the
format, and there without a carry. -/
lemma ofRatio_ne_none {num den top : Nat} (positive : 0 < den) (htop : top + 1 = 2045)
    (below : num < (2 ^ 54 - 1) * (den * 2 ^ top)) : ofRatio num den ≠ none := by
  have scale : 0 < den * 2 ^ lastPlace num den := Nat.mul_pos positive (Nat.two_pow_pos _)
  have bits := @lt_of_lastPlace num den positive
  obtain ⟨le, ge, -⟩ := @isNearest_roundDiv num _ scale
  apply carry_ne_none
  · by_contra long
    have scaled := Nat.mul_le_mul_right (den * 2 ^ lastPlace num den) (Nat.not_le.mp long)
    rw [Nat.succ_mul, Nat.pow_eq] at scaled
    omega
  · by_contra beyond
    have lower := @le_of_lastPlace num den positive (by omega)
    have powers : den * 2 ^ (top + 2) ≤ den * 2 ^ lastPlace num den :=
      Nat.mul_le_mul_left _ (Nat.pow_le_pow_right (by decide) (by omega))
    rw [pow_add, ← Nat.mul_assoc] at powers
    omega
  · rcases Nat.eq_zero_or_pos (lastPlace num den) with hzero | hpos
    · exact Or.inl hzero
    · have lower := le_of_lastPlace positive hpos
      right
      by_contra few
      have scaled := Nat.mul_le_mul_right (den * 2 ^ lastPlace num den) (Nat.not_le.mp few)
      rw [Nat.succ_mul, Nat.pow_eq] at scaled
      omega
  · intro last carried
    rw [Nat.pow_eq] at carried
    have double : den * 2 ^ lastPlace num den = 2 * (den * 2 ^ top) := by
      rw [last, ← htop, pow_succ]
      ring
    rw [carried, double] at le
    omega

/-- **The rounding fails from the threshold on**, half of the last place above the largest
magnitude. The place is kept apart, lest the power be computed. -/
lemma ofRatio_eq_none_iff {num den top : Nat} (positive : 0 < den) (htop : top + 1 = 2045) :
    ofRatio num den = none ↔ (2 ^ 54 - 1) * (den * 2 ^ top) ≤ num := by
  constructor
  · intro hnone
    by_contra below
    exact ofRatio_ne_none positive htop (Nat.not_le.mp below) hnone
  · intro above
    rw [Option.eq_none_iff_forall_ne_some]
    intro m hm
    have inside := contains_of_ofRatio positive hm
    rw [contains_readBackOver_iff] at inside
    obtain ⟨-, upper, tie⟩ := inside
    have short : m.significand + 1 ≤ 2 ^ 53 := m.canonical.1
    have scale : 0 < den * 2 ^ top := Nat.mul_pos positive (Nat.two_pow_pos _)
    rcases Nat.lt_or_ge m.exponent (top + 1) with hlow | hhigh
    · have powers : den * 2 ^ m.exponent ≤ den * 2 ^ top :=
        Nat.mul_le_mul_left _ (Nat.pow_le_pow_right (by decide) (by omega))
      have scaled := Nat.mul_le_mul_right (den * 2 ^ m.exponent) short
      rw [Nat.succ_mul] at scaled
      omega
    · -- only the largest significand reaches the threshold, and it is odd
      have last : m.exponent = top + 1 := by
        have bound := m.canonical.2.1
        omega
      have double : den * 2 ^ m.exponent = 2 * (den * 2 ^ top) := by
        rw [last, pow_succ]
        ring
      rw [double] at upper tie
      generalize den * 2 ^ top = half at *
      have largest : m.significand = 2 ^ 53 - 1 := by
        by_contra smaller
        have scaled := Nat.mul_le_mul_right (2 * half)
          (show m.significand + 2 ≤ 2 ^ 53 by omega)
        rw [Nat.add_mul] at scaled
        omega
      rw [largest] at upper tie
      omega

/-- A quotient is rounded to zero up to half a unit. -/
lemma ofRatio_eq_zero_iff {num den : Nat} (positive : 0 < den) :
    ofRatio num den = some zero ↔ 2 * num ≤ den := by
  rw [ofRatio_eq_some_iff positive, contains_readBackOver_iff]
  simp only [zero, Nat.zero_mul, Nat.mul_zero, pow_zero, Nat.mul_one]
  constructor
  · rintro ⟨-, upper, -⟩
    omega
  · intro small
    exact ⟨Nat.zero_le _, by omega, fun odd => absurd odd (by decide)⟩

/-! ## Values -/

/-- The value of a magnitude. -/
def rational (m : Magnitude) : ℚ :=
  m.units / unitsOfOne

/-- One is made of some units. -/
lemma unitsOfOne_pos : (0 : ℚ) < unitsOfOne := by
  obtain ⟨places, -, hunits⟩ := exists_unitsOfOne
  rw [hunits]
  exact Nat.cast_pos.mpr (Nat.two_pow_pos places)

/-- No magnitude is negative. -/
lemma rational_nonneg (m : Magnitude) : 0 ≤ m.rational :=
  div_nonneg (Nat.cast_nonneg _) unitsOfOne_pos.le

/-- Zero has the value zero. -/
lemma rational_zero : zero.rational = 0 := by
  rw [rational, units_zero, Nat.cast_zero, zero_div]

/-- Magnitudes of one value have as many units. -/
lemma rational_inj {m n : Magnitude} : m.rational = n.rational ↔ m.units = n.units := by
  rw [rational, rational, div_left_inj' unitsOfOne_pos.ne', Nat.cast_inj]

/-- The distance between a quotient and a magnitude, counted in parts of a unit. -/
lemma abs_sub_rational {den : Nat} (positive : 0 < den) (num : Nat) (m : Magnitude) :
    |(num : ℚ) / (den * unitsOfOne) - m.rational| =
      (|(num : Int) - (m.units * den : Nat)| : Int) / (den * unitsOfOne) := by
  have scale : (0 : ℚ) < den * unitsOfOne := mul_pos (Nat.cast_pos.mpr positive) unitsOfOne_pos
  have whole : (num : ℚ) / (den * unitsOfOne) - m.rational =
      ((num : Int) - (m.units * den : Nat) : Int) / (den * unitsOfOne) := by
    have nonzero : (den : ℚ) ≠ 0 := (Nat.cast_pos.mpr positive).ne'
    have unit := unitsOfOne_pos.ne'
    rw [rational]
    push_cast
    field_simp
  rw [whole, abs_div, abs_of_pos scale, Int.cast_abs]

/-- A magnitude is preferred to a number when rounding: it is at least as near, and if it is just as
near, its significand is even. -/
structure PreferredTo (m : Magnitude) (s q : ℚ) : Prop where
  /-- It is at least as near. -/
  near : |q - m.rational| ≤ |q - s|
  /-- A tie goes to the even significand. -/
  tie : s ≠ m.rational → |q - m.rational| = |q - s| → m.significand % 2 = 0

/-- A magnitude that surrounds a quotient is preferred to any magnitude. -/
lemma preferredTo_of_contains {m : Magnitude} {num den : Nat} (positive : 0 < den)
    (h : (m.readBackOver den).contains num = true) (n : Magnitude) :
    m.PreferredTo n.rational (num / (den * unitsOfOne)) := by
  have scale : (0 : ℚ) < den * unitsOfOne := mul_pos (Nat.cast_pos.mpr positive) unitsOfOne_pos
  -- the distances have one denominator, so it is a matter of whole numbers
  obtain ⟨near, tie⟩ := dist_le_of_contains positive h n
  constructor
  · rw [abs_sub_rational positive, abs_sub_rational positive, div_le_div_iff_of_pos_right scale,
      Int.cast_le]
    exact near
  · rw [abs_sub_rational positive, abs_sub_rational positive, div_left_inj' scale.ne',
      Int.cast_inj, ne_eq, rational_inj]
    exact tie

/-- The threshold of the format, counted in parts of a unit. The place is kept apart here too. -/
lemma exists_threshold :
    ∃ top : Nat, top + 1 = 2045 ∧ ∀ den : Nat, ((2 : ℚ) ^ 1024 - 2 ^ 970) * (den * unitsOfOne) =
      (((2 ^ 54 - 1) * (den * 2 ^ top) : Nat) : ℚ) := by
  obtain ⟨top, htop⟩ : ∃ top : Nat, top + 1 = 2045 := ⟨2044, rfl⟩
  obtain ⟨places, hplaces, hunits⟩ := exists_unitsOfOne
  refine ⟨top, htop, fun den => ?_⟩
  have large : (2 : ℚ) ^ 1024 = 2 ^ 54 * 2 ^ 970 := pow_add 2 54 970
  have power : (2 : ℚ) ^ 970 * 2 ^ places = 2 ^ top := by
    have sum : 970 + places = top := by omega
    rw [← pow_add, sum]
  rw [large, hunits, Nat.pow_eq]
  generalize (2 : ℚ) ^ 970 = low at *
  push_cast
  rw [← power]
  ring

/-- Half of the least positive number, counted in parts of a unit. -/
lemma half_mul (den : Nat) : (1 : ℚ) / 2 ^ 1075 * (den * unitsOfOne) = den / 2 := by
  obtain ⟨places, hplaces, hunits⟩ := exists_unitsOfOne
  have power : (2 : ℚ) ^ 1075 = 2 ^ places * 2 := by
    rw [← pow_succ, hplaces]
  rw [power, hunits, Nat.pow_eq]
  push_cast
  field_simp

end Magnitude

namespace Binary64

/-- The value of a finite number. -/
def rational? : Binary64 → Option ℚ
  | .finite negative m => some (if negative then -m.rational else m.rational)
  | _ => none

/-- What a rational number rounds to, ties to even. -/
structure Rounds (q : ℚ) (x : Binary64) : Prop where
  /-- It is an infinity from the threshold on, which is half of the last place above the largest
  finite number. -/
  infinite : x = .infinity false ↔ 2 ^ 1024 - 2 ^ 970 ≤ q
  /-- It is zero up to half of the least positive number. -/
  vanishing : x = .zero ↔ q ≤ 1 / 2 ^ 1075
  /-- Below the threshold it is a number without a sign that is preferred to any finite number. -/
  nearest : q < 2 ^ 1024 - 2 ^ 970 →
    ∃ m, x = .finite false m ∧ ∀ y s, rational? y = some s → m.PreferredTo s q

/-- A number below zero is farther away from a quotient than zero. -/
lemma abs_sub_lt_abs_add {q r : ℚ} (hq : 0 ≤ q) (hr : 0 < r) : |q - 0| < |q - -r| := by
  rw [sub_zero, sub_neg_eq_add, abs_of_nonneg hq, abs_of_pos (by linarith)]
  linarith

/-- **A magnitude that surrounds a quotient is preferred to any finite number**, also to those below
zero. -/
lemma preferredTo_of_ofRatio {num den : Nat} {m : Magnitude} (positive : 0 < den)
    (h : Magnitude.ofRatio num den = some m) {y : Binary64} {s : ℚ} (hs : y.rational? = some s) :
    m.PreferredTo s (num / (den * Magnitude.unitsOfOne)) := by
  have surrounds := Magnitude.contains_of_ofRatio positive h
  have among := Magnitude.preferredTo_of_contains positive surrounds
  cases y with
  | nan => cases hs
  | infinity negative => cases hs
  | finite negative n =>
      cases negative with
      | false =>
          cases hs
          exact among n
      | true =>
          cases hs
          rcases n.rational_nonneg.eq_or_lt with hn | hn
          · have same : -n.rational = Magnitude.zero.rational := by
              rw [Magnitude.rational_zero, ← hn, neg_zero]
            simp only [if_true, same]
            exact among .zero
          · have quotient : (0 : ℚ) ≤ num / (den * Magnitude.unitsOfOne) :=
              div_nonneg (Nat.cast_nonneg _)
                (mul_nonneg (Nat.cast_nonneg _) Magnitude.unitsOfOne_pos.le)
            have toZero := (among .zero).near
            rw [Magnitude.rational_zero] at toZero
            have farther := toZero.trans_lt (abs_sub_lt_abs_add quotient hn)
            exact ⟨farther.le, fun _ tie => absurd tie farther.ne⟩

/-- **The rounding of the library rounds.** -/
theorem rounds_ofRatio {num den : Nat} (positive : 0 < den) :
    Rounds (num / (den * Magnitude.unitsOfOne)) (ofRatio false num den) := by
  have scale : (0 : ℚ) < den * Magnitude.unitsOfOne :=
    mul_pos (Nat.cast_pos.mpr positive) Magnitude.unitsOfOne_pos
  have infinite : Magnitude.ofRatio num den = none ↔
      (2 : ℚ) ^ 1024 - 2 ^ 970 ≤ num / (den * Magnitude.unitsOfOne) := by
    obtain ⟨top, htop, threshold⟩ := Magnitude.exists_threshold
    rw [Magnitude.ofRatio_eq_none_iff positive htop, le_div_iff₀ scale, threshold, Nat.cast_le]
  have vanishing : Magnitude.ofRatio num den = some .zero ↔
      (num : ℚ) / (den * Magnitude.unitsOfOne) ≤ 1 / 2 ^ 1075 := by
    rw [Magnitude.ofRatio_eq_zero_iff positive, div_le_iff₀ scale, Magnitude.half_mul,
      le_div_iff₀ two_pos, Nat.mul_comm]
    norm_cast
  unfold ofRatio
  cases hround : Magnitude.ofRatio num den with
  | none =>
      have above := infinite.mp hround
      refine ⟨iff_of_true rfl above, ?_, fun below => absurd below (not_lt.mpr above)⟩
      rw [← vanishing, hround]
      exact iff_of_false (fun h => nomatch h) (fun h => nomatch h)
  | some m =>
      refine ⟨?_, ?_, fun _ => ⟨m, rfl, fun y s hs => preferredTo_of_ofRatio positive hround hs⟩⟩
      · rw [← infinite, hround]
        exact iff_of_false (fun h => nomatch h) (fun h => nomatch h)
      · rw [← vanishing, hround, zero, finite.injEq, Option.some_inj]
        exact and_iff_right rfl

/-- A decimal with the magnitude of a quotient is the number of the quotient. -/
lemma ofDecimal_eq_ofRatio {negative : Bool} {d : Decimal} {num den : Nat}
    (h : Magnitude.ofDecimal d = Magnitude.ofRatio num den) :
    ofDecimal negative d = ofRatio negative num den := by
  unfold ofDecimal ofRatio
  cases hround : Magnitude.ofRatio num den with
  | none => simp only [h, hround]
  | some m => simp only [h, hround]

/-- **Reading a decimal rounds its value.** -/
theorem rounds_ofDecimal (d : Decimal) :
    Rounds (d.numerator / (d.denominator * Magnitude.unitsOfOne)) (ofDecimal false d) := by
  rw [ofDecimal_eq_ofRatio (Magnitude.ofDecimal_eq_ofRatio d)]
  exact rounds_ofRatio d.denominator_pos

/-- What a rational number rounds to is a number, and not below zero. -/
lemma Rounds.not_negative {q : ℚ} {x : Binary64} (h : Rounds q x) :
    x ≠ .nan ∧ x.isNegative = false := by
  rcases lt_or_ge q (2 ^ 1024 - 2 ^ 970) with below | above
  · obtain ⟨m, rfl, -⟩ := h.nearest below
    exact ⟨Binary64.noConfusion, rfl⟩
  · rw [h.infinite.mpr above]
    exact ⟨Binary64.noConfusion, rfl⟩

end Binary64

end Calculator
