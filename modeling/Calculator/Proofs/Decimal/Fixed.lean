import Calculator.CommandLine.Reply
import Calculator.Proofs.Decimal.Digits
import Calculator.Proofs.Decimal.Display

/-!
# Numbers with a fixed number of decimal places

A number can be displayed with a fixed number of decimal places. The digits then are those of a whole
number, the nearest one to the exact value in units of the last place (`IsNearestWhole`).

* There is such a number (`IsNearest.isNearestWhole`), and of a greater value it is not less
  (`IsNearestWhole.mono`).
* Its digits are padded with zeros until one is in front of the point, so the first digit is a zero
  only if it stands alone there (`Magnitude.isFixed_fixedForm`). What they show is the whole number,
  divided by the power of ten (`IsFixed.shows`).

`displayed_fixed` says so of the values that are displayed. More places than a text can have are
refused.
-/

namespace Calculator

/-! ## The nearest whole number -/

/-- A whole number to which a rational number rounds, ties to even. -/
structure IsNearestWhole (q : ℚ) (n : Nat) : Prop where
  /-- None is nearer. -/
  nearest : ∀ k : Nat, |n - q| ≤ |k - q|
  /-- It is even if another one is as near. -/
  tie : ∀ k : Nat, k ≠ n → |n - q| = |k - q| → n % 2 = 0

namespace IsNearestWhole

variable {q q' : ℚ} {n n' : Nat}

/-- Different whole numbers are at least one apart. -/
lemma half_le_abs_sub (half : |n - q| ≤ 1 / 2) {k : Nat} (other : k ≠ n) : 1 / 2 ≤ |k - q| := by
  have apart : (1 : ℚ) ≤ |(k : ℚ) - n| := by
    have whole : 1 ≤ |(k : Int) - n| := Int.one_le_abs (by omega)
    exact_mod_cast whole
  have between := abs_sub_le (k : ℚ) q n
  rw [abs_sub_comm q n] at between
  linarith

/-- A whole number within half is the nearest one, if it is even where it is just half away. -/
lemma of_half (half : |n - q| ≤ 1 / 2) (even : |n - q| = 1 / 2 → n % 2 = 0) :
    IsNearestWhole q n where
  nearest k := by
    rcases eq_or_ne k n with rfl | other
    · exact le_rfl
    · exact half.trans (half_le_abs_sub half other)
  tie k other tie := even (half.antisymm (tie ▸ half_le_abs_sub half other))

/-- The greater of two numbers is not farther from what is at least half way. -/
lemma add_le_of_abs_sub_le {a b q : ℚ} (lt : a < b) (h : |b - q| ≤ |a - q|) : a + b ≤ 2 * q := by
  by_contra less
  have product : 0 < (b - a) * (a + b - 2 * q) := mul_pos (by linarith) (by linarith)
  have squares := sq_le_sq.mpr h
  linarith

/-- The less of two numbers is not farther from what is at most half way. -/
lemma le_add_of_abs_sub_le {a b q : ℚ} (lt : a < b) (h : |a - q| ≤ |b - q|) : 2 * q ≤ a + b := by
  by_contra more
  have product : 0 < (b - a) * (2 * q - (a + b)) := mul_pos (by linarith) (by linarith)
  have squares := sq_le_sq.mpr h
  linarith

/-- **Of a greater number the nearest whole number is not less.** -/
lemma mono (h : IsNearestWhole q n) (h' : IsNearestWhole q' n') (le : q ≤ q') : n ≤ n' := by
  by_contra less
  have lt : (n' : ℚ) < n := Nat.cast_lt.mpr (Nat.not_le.mp less)
  -- both numbers are half way between the two, so these are even and another one is between them
  have lower := add_le_of_abs_sub_le lt (h.nearest n')
  have upper := le_add_of_abs_sub_le lt (h'.nearest n)
  have middle : 2 * q = n + n' := by linarith
  obtain rfl : q = q' := by linarith
  have tie : |n - q| = |n' - q| := (h.nearest n').antisymm (h'.nearest n)
  have even := h.tie n' (Nat.not_le.mp less).ne tie
  have even' := h'.tie n (Nat.not_le.mp less).ne' tie.symm
  have between : n' + 1 < n := by omega
  have past := add_le_of_abs_sub_le (Nat.cast_lt.mpr between) (h.nearest (n' + 1))
  push_cast at past
  linarith

/-- The nearest whole number to zero is zero. -/
lemma eq_zero (h : IsNearestWhole 0 n) : n = 0 := by
  have near := h.nearest 0
  rw [Nat.cast_zero, sub_zero, sub_zero, abs_zero, abs_nonpos_iff, Nat.cast_eq_zero] at near
  exact near

end IsNearestWhole

/-- What a quotient rounds to is the nearest whole number. -/
lemma IsNearest.isNearestWhole {num den n : Nat} (positive : 0 < den) (h : IsNearest num den n) :
    IsNearestWhole (num / den) n := by
  have scale : (0 : ℚ) < den := Nat.cast_pos.mpr positive
  have whole : (num / den : ℚ) * den = num := div_mul_cancel₀ _ scale.ne'
  have upper : (2 * (n * den) : ℚ) ≤ 2 * num + den := by exact_mod_cast h.le
  have lower : (2 * num : ℚ) ≤ 2 * (n * den) + den := by exact_mod_cast h.ge
  generalize (num / den : ℚ) = q at whole
  rw [← whole] at upper lower
  have above : (n : ℚ) ≤ q + 1 / 2 := le_of_mul_le_mul_right (by linarith) scale
  have below : q ≤ n + 1 / 2 := le_of_mul_le_mul_right (by linarith) scale
  apply IsNearestWhole.of_half
  · rw [abs_le]
    constructor <;> linarith
  · intro half
    by_contra odd
    obtain ⟨notAbove, notBelow⟩ := h.tie (by omega)
    rcases eq_or_eq_neg_of_abs_eq half with above | below
    · apply notAbove
      have exact : (2 * (n * den) : ℚ) = 2 * num + den := by
        rw [← whole, sub_eq_iff_eq_add.mp above]
        ring
      exact_mod_cast exact
    · apply notBelow
      have exact : (2 * num : ℚ) = 2 * (n * den) + den := by
        rw [← whole, sub_eq_iff_eq_add.mp below]
        ring
      exact_mod_cast exact

/-! ## Written digits -/

/-- A text with a fixed number of decimal places that has the digits of a whole number: the sign,
digits in front of the point, the first of which is zero only if it is the only one, and, if there are
places, the point and as many digits. -/
def IsFixed (negative : Bool) (places n : Nat) (text : List Char) : Prop :=
  ∃ whole fraction : List Char,
    text = signMark negative ++ (whole ++ if places = 0 then [] else '.' :: fraction) ∧
      (∀ c ∈ whole ++ fraction, c.isDigit = true) ∧
      (whole ≠ [] ∧ (whole.head? = some '0' → whole = ['0'])) ∧ fraction.length = places ∧
      Decimal.ofDigits (whole ++ fraction) = n

namespace Magnitude

variable {m : Magnitude} {places : Nat}

/-- The digits of the fixed form are those of the nearest whole number. -/
lemma isNearestWhole_roundedAt (m : Magnitude) (places : Nat) :
    IsNearestWhole (m.rational * 10 ^ places) (m.roundedAt places) := by
  have positive : 0 < unitsOfOne := Nat.cast_pos.mp unitsOfOne_pos
  have nearest :=
    (@isNearest_roundDiv (m.units * Nat.pow 10 places) _ positive).isNearestWhole positive
  rw [Nat.pow_eq] at nearest
  push_cast at nearest
  rw [rational, div_mul_eq_mul_div]
  exact nearest

/-- Digits are padded with zeros until one is in front of the places. It is a zero only if it stands
alone there. -/
lemma exists_parts_of_padded (n places : Nat) :
    ∃ whole fraction,
      List.replicate (places + 1 - (Decimal.digits n).length) '0' ++ Decimal.digits n =
          whole ++ fraction ∧
        (whole ≠ [] ∧ (whole.head? = some '0' → whole = ['0'])) ∧ fraction.length = places := by
  rcases Nat.lt_or_ge (places + 1) (Decimal.digits n).length with long | short
  · -- nothing is filled in, and the first of several digits is not zero
    have nonzero : n ≠ 0 := by
      rintro rfl
      exact absurd long (by simp [Decimal.digits])
    obtain ⟨first, rest, hdigits, hfirst⟩ := Decimal.exists_digits_eq_cons nonzero
    have length : (Decimal.digits n).length = rest.length + 1 := by rw [hdigits, List.length_cons]
    refine ⟨first :: rest.take (rest.length - places), rest.drop (rest.length - places), ?_,
      ⟨List.cons_ne_nil _ _, ?_⟩, ?_⟩
    · rw [Nat.sub_eq_zero_of_le long.le, List.replicate_zero, List.nil_append, hdigits,
        List.cons_append, List.take_append_drop]
    · intro zero
      exact absurd (Option.some.inj zero) hfirst
    · rw [List.length_drop]
      omega
  · -- one digit is in front of the places
    have length : (List.replicate (places + 1 - (Decimal.digits n).length) '0' ++
        Decimal.digits n).length = places + 1 := by
      rw [List.length_append, List.length_replicate, Nat.sub_add_cancel short]
    obtain ⟨first, rest, hpadded⟩ := List.exists_cons_of_length_eq_add_one length
    rw [hpadded, List.length_cons, Nat.add_right_cancel_iff] at length
    refine ⟨[first], rest, hpadded, ⟨List.cons_ne_nil _ _, ?_⟩, length⟩
    intro zero
    rw [Option.some.inj zero]

/-- **The fixed form has the digits of the nearest whole number**, with a zero in front of the point
only if nothing else is there. -/
lemma isFixed_fixedForm (m : Magnitude) (negative : Bool) (places : Nat) :
    IsFixed negative places (m.roundedAt places) (signMark negative ++ m.fixedForm places) := by
  obtain ⟨whole, fraction, parts, some, length⟩ := exists_parts_of_padded (m.roundedAt places) places
  refine ⟨whole, fraction, ?_, ?_, some, length, ?_⟩
  · have front : (whole ++ fraction).length - places = whole.length := by
      rw [List.length_append, length, Nat.add_sub_cancel]
    unfold fixedForm
    simp only [parts, front, List.take_left, List.drop_left]
    split_ifs with none
    · rw [List.length_eq_zero_iff.mp (length.trans none)]
    · rfl
  · intro c hc
    rw [← parts] at hc
    rcases List.mem_append.mp hc with zero | digit
    · exact Decimal.isDigit_of_mem_zeros zero
    · exact Decimal.isDigit_of_mem_digits digit
  · rw [← parts, Decimal.ofDigits_zeros_append, Decimal.ofDigits_digits]

end Magnitude

/-- **A text with the digits of a whole number shows it, divided by the power of ten** with as many
zeros as there are places. -/
lemma IsFixed.shows {negative : Bool} {places n : Nat} {text : List Char}
    (h : IsFixed negative places n text) :
    Shows text (if negative then -(n / 10 ^ places) else n / 10 ^ places) := by
  obtain ⟨whole, fraction, rfl, digit, ⟨some, -⟩, rfl, rfl⟩ := h
  have hwhole : ∀ c ∈ whole, c.isDigit = true := fun c hc => digit c (List.mem_append_left _ hc)
  have hfraction : ∀ c ∈ fraction, c.isDigit = true :=
    fun c hc => digit c (List.mem_append_right _ hc)
  have parts : (Decimal.ofParts whole fraction).rational =
      Decimal.ofDigits (whole ++ fraction) / 10 ^ fraction.length := by
    rw [Decimal.ofParts, Decimal.rational, zpow_neg, zpow_natCast, div_eq_mul_inv]
  rw [← parts]
  refine .signed negative ?_
  cases fraction with
  | nil =>
      obtain ⟨numeral, value⟩ := Decimal.denotes_digits hwhole some
      rw [← value, List.length_nil, if_pos rfl, List.append_nil]
      exact .numeral numeral
  | cons first more =>
      obtain ⟨numeral, value⟩ := Decimal.denotes_parts hwhole hfraction some
      rw [← value, if_neg (by simp)]
      exact .numeral numeral

/-! ## What is displayed -/

/-- A number with a fixed number of places is displayed as its sign and the digits of the whole number
nearest to its absolute value in units of the last place. -/
lemma exists_display_fixed {x : Binary64} {v : ℚ} (finite : x.rational? = some v) (places : Nat) :
    ∃ n, IsFixed x.isNegative places n (x.display (some places)).toList ∧
      IsNearestWhole (|v| * 10 ^ places) n := by
  cases x with
  | nan => cases finite
  | infinity negative => cases finite
  | finite negative m =>
      obtain rfl : (if negative then -m.rational else m.rational) = v := Option.some.inj finite
      have size : |if negative then -m.rational else m.rational| = m.rational := by
        cases negative with
        | false => exact abs_of_nonneg m.rational_nonneg
        | true => exact (abs_neg _).trans (abs_of_nonneg m.rational_nonneg)
      refine ⟨m.roundedAt places, ?_, ?_⟩
      · rw [Binary64.display, String.toList_ofList]
        exact m.isFixed_fixedForm negative places
      · rw [size]
        exact m.isNearestWhole_roundedAt places

/-- The value of a number with a minus sign is not positive, and that of one without is not
negative. -/
lemma rational?_signed {x : Binary64} {v : ℚ} (finite : x.rational? = some v) :
    v = if x.isNegative then -|v| else |v| := by
  cases x with
  | nan => cases finite
  | infinity negative => cases finite
  | finite negative m =>
      obtain rfl : (if negative then -m.rational else m.rational) = v := Option.some.inj finite
      cases negative with
      | false => exact (abs_of_nonneg m.rational_nonneg).symm
      | true =>
          show -m.rational = -|-m.rational|
          rw [abs_neg, abs_of_nonneg m.rational_nonneg]

/-- **Rounding to a fixed number of places keeps the order** of numbers with a sign, zeros of both
signs included. -/
lemma signed_mono {negative negative' : Bool} {v w : ℚ} {places n n' : Nat}
    (hv : IsNearestWhole (|v| * 10 ^ places) n) (hw : IsNearestWhole (|w| * 10 ^ places) n')
    (le : (if negative then -|v| else |v|) ≤ if negative' then -|w| else |w|) :
    (if negative then -(n / 10 ^ places : ℚ) else n / 10 ^ places) ≤
      if negative' then -(n' / 10 ^ places : ℚ) else n' / 10 ^ places := by
  have scale : (0 : ℚ) < 10 ^ places := by positivity
  have size : ∀ k : Nat, (0 : ℚ) ≤ k / 10 ^ places := fun k => by positivity
  have grows : ∀ {a b : ℚ} {k l : Nat}, IsNearestWhole (a * 10 ^ places) k →
      IsNearestWhole (b * 10 ^ places) l → a ≤ b → (k / 10 ^ places : ℚ) ≤ l / 10 ^ places := by
    intro a b k l hk hl hle
    have whole := hk.mono hl (mul_le_mul_of_nonneg_right hle scale.le)
    exact div_le_div_of_nonneg_right (Nat.cast_le.mpr whole) scale.le
  have nonneg := abs_nonneg v
  have nonneg' := abs_nonneg w
  cases negative <;> cases negative' <;>
    simp only [if_true, Bool.false_eq_true, if_false] at le ⊢
  · exact grows hv hw le
  · -- two zeros
    obtain ⟨zero, zero'⟩ : |v| = 0 ∧ |w| = 0 := ⟨by linarith, by linarith⟩
    rw [zero, zero_mul] at hv
    rw [zero', zero_mul] at hw
    rw [hv.eq_zero, hw.eq_zero, Nat.cast_zero, zero_div, neg_zero]
  · linarith [size n, size n']
  · exact neg_le_neg (grows hw hv (by linarith))

namespace CommandLine

/-- **With a fixed number of places a finite value is displayed as the nearest decimal.** There is a
minus sign if the value has one, also in front of a zero. The digits, so many of them behind the point
and none but a single zero too many in front of it, are those of the whole number nearest to the exact
absolute value in units of the last place, ties to even. Greater values are displayed as greater or
equal numbers. More places than a text can have are refused, whatever the value. -/
theorem displayed_fixed {settings : Settings} {places : Nat}
    (fixed : settings.precision = some places) :
    (places ≤ mostPlaces →
      (∀ x v, x.rational? = some v →
        ∃ text n, displayed settings x = .ok text ∧ IsFixed x.isNegative places n text.toList ∧
          IsNearestWhole (|v| * 10 ^ places) n ∧
            Shows text.toList (if x.isNegative then -(n / 10 ^ places) else n / 10 ^ places)) ∧
      ∀ x y v w, x.rational? = some v → y.rational? = some w → v ≤ w →
        ∀ text text', displayed settings x = .ok text → displayed settings y = .ok text' →
          ∀ q q', Shows text.toList q → Shows text'.toList q' → q ≤ q') ∧
    (mostPlaces < places → ∀ x, displayed settings x = .error .tooManyPlaces) := by
  refine ⟨fun few => ?_, fun many x => ?_⟩
  · have answer : ∀ x, displayed settings x = .ok (x.display (some places)) := by
      intro x
      rw [displayed, fixed, Option.getD_some, if_neg (Nat.not_lt.mpr few)]
    refine ⟨?_, ?_⟩
    · intro x v finite
      obtain ⟨n, form, nearest⟩ := exists_display_fixed finite places
      exact ⟨_, n, answer x, form, nearest, form.shows⟩
    · intro x y v w hx hy le text text' htext htext' q q' shows shows'
      obtain rfl := Except.ok.inj ((answer x).symm.trans htext)
      obtain rfl := Except.ok.inj ((answer y).symm.trans htext')
      obtain ⟨n, form, nearest⟩ := exists_display_fixed hx places
      obtain ⟨n', form', nearest'⟩ := exists_display_fixed hy places
      rw [shows.unique form.shows, shows'.unique form'.shows]
      rw [rational?_signed hx, rational?_signed hy] at le
      exact signed_mono nearest nearest' le
  · rw [displayed, fixed, Option.getD_some, if_pos many]

/-- Minus one eighth. -/
def minusEighth : Binary64 := .finite true ⟨4503599627370496, 1019, by decide⟩

/-- A tie goes to the even digit, the sign of a zero is displayed, and there can be too many places. -/
theorem displayed_fixed_minusEighth :
    (minusEighth.rational? = some (-1 / 8) ∧
      ∃ n, displayed { Settings.default with precision := some 2 } minusEighth = .ok "-0.12" ∧
        IsFixed true 2 n "-0.12".toList ∧ IsNearestWhole (|-1 / 8| * 10 ^ 2) n ∧
          Shows "-0.12".toList (-(n / 10 ^ 2))) ∧
      (∀ q q', Shows "-0.00".toList q → Shows "0.00".toList q' → q ≤ q') ∧
      displayed { Settings.default with precision := some 2147483648 } minusEighth =
        .error .tooManyPlaces := by
  have value : minusEighth.rational? = some (-1 / 8) := by
    have counted : Magnitude.unitsOfOne =
        8 * Magnitude.units ⟨4503599627370496, 1019, by decide⟩ := by decide +kernel
    have some : Magnitude.units ⟨4503599627370496, 1019, by decide⟩ ≠ 0 := by decide +kernel
    rw [minusEighth, Binary64.rational?, if_pos rfl, Magnitude.rational, counted, Nat.cast_mul,
      div_mul_cancel_right₀ (Nat.cast_ne_zero.mpr some)]
    norm_num
  have shown : ∀ x, displayed { Settings.default with precision := some 2 } x =
      .ok (x.display (some 2)) := fun x => if_neg (by decide)
  have eighth : minusEighth.display (some 2) = "-0.12" := by decide +kernel
  have zero : Binary64.zero.display (some 2) = "0.00" := by decide +kernel
  have minusZero : Binary64.zero.neg.display (some 2) = "-0.00" := by decide +kernel
  obtain ⟨each, order⟩ :=
    (@displayed_fixed { Settings.default with precision := some 2 } 2 rfl).1 (by decide)
  refine ⟨⟨value, ?_⟩, ?_, ?_⟩
  · obtain ⟨text, n, answer, form, nearest, shows⟩ := each minusEighth _ value
    rw [shown, eighth] at answer
    obtain rfl := Except.ok.inj answer
    exact ⟨n, (shown _).trans (congrArg _ eighth), form, nearest, shows⟩
  · have value : Binary64.zero.rational? = some 0 := congrArg some Magnitude.rational_zero
    have value' : Binary64.zero.neg.rational? = some 0 :=
      congrArg some ((congrArg Neg.neg Magnitude.rational_zero).trans neg_zero)
    have shownZero := (shown Binary64.zero).trans (congrArg _ zero)
    have shownMinusZero := (shown Binary64.zero.neg).trans (congrArg _ minusZero)
    exact order _ _ 0 0 value' value le_rfl _ _ shownMinusZero shownZero
  · exact (@displayed_fixed { Settings.default with precision := some 2147483648 } 2147483648 rfl).2
      (by decide) minusEighth

end CommandLine

end Calculator
