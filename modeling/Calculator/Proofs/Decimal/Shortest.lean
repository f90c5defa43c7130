import Mathlib.Data.List.DropRight
import Calculator.Proofs.Decimal.Display
import Calculator.Proofs.Decimal.Fewest

/-!
# What is displayed is shortest

A number without a fixed number of places is displayed with no more digits than it needs. The digits
that count are those of the text (`significantDigits`): zeros in front do not, and neither do zeros
at the end of a whole number.

* Every decimal is a multiple of some unit, and in that unit the shortest decimal is the nearest point
  of the coarsest grid that hits the interval (`Magnitude.isCoarsest_shortest`). So no other decimal
  that rounds to the magnitude has fewer digits, and none of as many is nearer
  (`Magnitude.shortest_fewest`).
* Ten does not divide the coefficient of the shortest decimal, so its digits are the significant digits
  of the text, in either form (`Decimal.significantDigits_dropPointZero`).

`display_shortest` compares what is displayed with all decimals.
-/

namespace Calculator

/-! ## The shortest decimal among all -/

namespace Decimal

/-- A decimal in units of which it is a multiple. The number of places is kept apart, lest the power be
computed. -/
lemma rational_eq_div {factor place places finer : Nat} (hplaces : places = 1074) :
    rational ⟨factor, (place : Int) - places - finer⟩ =
      (factor * 10 ^ place : Nat) / ((5 ^ places * 10 ^ finer : Nat) * Magnitude.unitsOfOne) := by
  obtain ⟨places', hplaces', hunits⟩ := Magnitude.exists_unitsOfOne
  obtain rfl : places' = places := hplaces'.trans hplaces.symm
  have ten : (10 : ℚ) ^ places' = 5 ^ places' * 2 ^ places' := by
    rw [← mul_pow]
    norm_num
  rw [rational, hunits, Nat.pow_eq, zpow_sub₀ (by norm_num), zpow_sub₀ (by norm_num), zpow_natCast,
    zpow_natCast, zpow_natCast, ten]
  push_cast
  field_simp

end Decimal

namespace Magnitude

/-- **In any unit, the shortest decimal is the nearest point of the coarsest grid** that hits the
interval. -/
lemma isCoarsest_shortest {m : Magnitude} (nonzero : m.units ≠ 0) {places : Nat}
    (hplaces : places = 1074) (finer : Nat) :
    ∃ factor place : Nat, m.shortest = ⟨factor, (place : Int) - places - finer⟩ ∧
      IsCoarsest (m.readBackOver (5 ^ places * 10 ^ finer)) factor place := by
  have positive : 0 < Nat.pow 5 places := Nat.pow_pos (by decide)
  have found := (isCoarsest_search positive (significand_pos nonzero)).scale finer
  obtain ⟨places', hplaces', hreadBack⟩ := m.exists_readBack
  obtain rfl : places' = places := hplaces'.trans hplaces.symm
  refine ⟨_, _, ?_, found⟩
  rw [shortest_eq nonzero, hreadBack]
  congr 1
  omega

/-- Ten does not divide the digits of the shortest decimal. -/
lemma shortest_coefficient_mod {m : Magnitude} (nonzero : m.units ≠ 0) :
    m.shortest.coefficient % 10 ≠ 0 := by
  obtain ⟨factor, place, hshortest, found⟩ := isCoarsest_shortest nonzero rfl 0
  rw [hshortest]
  intro divided
  obtain ⟨tenth, rfl⟩ := Nat.dvd_of_mod_eq_zero divided
  have missed := found.coarsest tenth
  have inside := found.inside
  rw [Nat.mul_comm 10, Nat.mul_assoc, Nat.mul_comm 10, ← pow_succ, missed] at inside
  cases inside

/-- **No decimal that rounds to a magnitude has fewer digits than the shortest one, and of those with
as many none is nearer.** -/
theorem shortest_fewest {m : Magnitude} (nonzero : m.units ≠ 0) {d : Decimal}
    (h : ofDecimal d = some m) :
    (Decimal.digits m.shortest.coefficient).length ≤ (Decimal.digits d.coefficient).length ∧
      ((Decimal.digits d.coefficient).length = (Decimal.digits m.shortest.coefficient).length →
        |m.shortest.rational - m.rational| ≤ |d.rational - m.rational|) := by
  obtain ⟨places, hplaces⟩ : ∃ places : Nat, places = 1074 := ⟨_, rfl⟩
  obtain ⟨coefficient, exponent⟩ := d
  -- a unit of which the decimal is a multiple
  obtain ⟨finer, place, rfl⟩ : ∃ finer place : Nat, exponent = (place : Int) - places - finer :=
    ⟨(-(exponent + places)).toNat, (exponent + places).toNat, by omega⟩
  rw [ofDecimal_eq_some_iff hplaces] at h
  obtain ⟨factor, shortestPlace, hshortest, found⟩ := isCoarsest_shortest nonzero hplaces finer
  have positive : 0 < 5 ^ places * 10 ^ finer :=
    Nat.mul_pos (Nat.pow_pos (by decide)) (Nat.pow_pos (by decide))
  rw [hshortest]
  refine ⟨found.length_digits_le (contains_zero positive (significand_pos nonzero)) h,
    fun same => ?_⟩
  have scale : (0 : ℚ) < (5 ^ places * 10 ^ finer : Nat) * unitsOfOne :=
    mul_pos (Nat.cast_pos.mpr positive) unitsOfOne_pos
  have near := abs_sub_le_of_same_length hplaces (significand_pos nonzero) found h same
  rw [Decimal.rational_eq_div hplaces, Decimal.rational_eq_div hplaces, abs_sub_rational positive,
    abs_sub_rational positive, div_le_div_iff_of_pos_right scale, Int.cast_le]
  exact near

end Magnitude

/-! ## Significant digits -/

/-- The significant digits of a number text: those in front of the power of ten from the first one on
that is not zero, and of a whole number only up to the last one that is not zero. -/
def significantDigits (text : List Char) : List Char :=
  let mantissa := text.takeWhile (· ≠ 'e')
  let digits := (mantissa.filter Char.isDigit).dropWhile (· = '0')
  if '.' ∈ mantissa then digits else digits.rdropWhile (· = '0')

namespace Decimal

/-- A sign is no digit. -/
lemma significantDigits_signMark (negative : Bool) (text : List Char) :
    significantDigits (signMark negative ++ text) = significantDigits text := by
  cases negative with
  | false => rfl
  | true => simp [significantDigits, signMark]

/-- A text without a power of ten is as it stands in front of one. -/
lemma takeWhile_ne_exponentMark {text : List Char} (noMark : 'e' ∉ text) :
    text.takeWhile (· ≠ 'e') = text := by
  rw [List.takeWhile_eq_self_iff]
  intro c hc
  rw [decide_eq_true_eq]
  rintro rfl
  exact noMark hc

/-- A power of ten is none of the significant digits. -/
lemma significantDigits_append_mark {text power : List Char} (noMark : 'e' ∉ text) :
    significantDigits (text ++ 'e' :: power) = significantDigits text := by
  have all := takeWhile_ne_exponentMark noMark
  have cut : (text ++ 'e' :: power).takeWhile (· ≠ 'e') = text := by
    rw [List.takeWhile_append_of_pos (List.takeWhile_eq_self_iff.mp all)]
    simp
  rw [significantDigits, significantDigits, all, cut]

/-- Digits do not mark a power of ten and are no point. -/
lemma notMem_of_digits {text : List Char} (h : ∀ c ∈ text, c.isDigit = true) :
    'e' ∉ text ∧ '.' ∉ text :=
  ⟨fun hc => absurd (h _ hc) (by decide), fun hc => absurd (h _ hc) (by decide)⟩

/-- Digits on either side of a point do not mark a power of ten. -/
lemma exponentMark_notMem_parts {whole fraction : List Char}
    (hwhole : ∀ c ∈ whole, c.isDigit = true) (hfraction : ∀ c ∈ fraction, c.isDigit = true) :
    'e' ∉ whole ++ '.' :: fraction := by
  intro hc
  rcases List.mem_append.mp hc with hc | hc
  · exact (notMem_of_digits hwhole).1 hc
  · exact (notMem_of_digits hfraction).1 (List.mem_of_ne_of_mem (by decide) hc)

/-- Of digits with a point among them, only the zeros in front do not count. -/
lemma significantDigits_parts {whole fraction : List Char}
    (hwhole : ∀ c ∈ whole, c.isDigit = true) (hfraction : ∀ c ∈ fraction, c.isDigit = true) :
    significantDigits (whole ++ '.' :: fraction) = (whole ++ fraction).dropWhile (· = '0') := by
  rw [significantDigits, takeWhile_ne_exponentMark (exponentMark_notMem_parts hwhole hfraction),
    if_pos (by simp), List.filter_append, List.filter_cons_of_neg (by decide),
    List.filter_eq_self.mpr hwhole, List.filter_eq_self.mpr hfraction]

/-- Of digits alone, the zeros at both ends do not count. -/
lemma significantDigits_whole {whole : List Char} (hwhole : ∀ c ∈ whole, c.isDigit = true) :
    significantDigits whole = (whole.dropWhile (· = '0')).rdropWhile (· = '0') := by
  obtain ⟨noMark, noPoint⟩ := notMem_of_digits hwhole
  rw [significantDigits, takeWhile_ne_exponentMark noMark, if_neg noPoint,
    List.filter_eq_self.mpr hwhole]

/-- No zero stands in front of the digits of a number, only zeros that are filled in. -/
lemma dropWhile_zeros_append {n : Nat} (nonzero : n ≠ 0) (zeros : Nat) (behind : List Char) :
    (List.replicate zeros '0' ++ (digits n ++ behind)).dropWhile (· = '0') = digits n ++ behind := by
  obtain ⟨first, rest, hdigits, hfirst⟩ := exists_digits_eq_cons nonzero
  rw [List.dropWhile_append_of_pos (fun c hc => by simpa using List.eq_of_mem_replicate hc), hdigits,
    List.cons_append, List.dropWhile_cons_of_neg (by simpa using hfirst)]

/-- No zero stands in front of the digits of a number. -/
lemma dropWhile_digits {n : Nat} (nonzero : n ≠ 0) :
    (digits n).dropWhile (· = '0') = digits n := by
  have kept := dropWhile_zeros_append nonzero 0 []
  rwa [List.replicate_zero, List.nil_append, List.append_nil] at kept

/-- Zeros behind the digits of a number are dropped, up to the last digit that is not zero. -/
lemma rdropWhile_digits_append {n : Nat} (h : n % 10 ≠ 0) (zeros : Nat) :
    (digits n ++ List.replicate zeros '0').rdropWhile (· = '0') = digits n := by
  obtain ⟨front, last, hdigits, hlast⟩ := exists_digits_eq_concat n
  have other : last ≠ '0' := fun zero => h (hlast.mp zero)
  rw [List.rdropWhile, List.reverse_append, List.reverse_replicate,
    List.dropWhile_append_of_pos (fun c hc => by simpa using List.eq_of_mem_replicate hc), hdigits,
    List.reverse_append, List.reverse_singleton, List.singleton_append,
    List.dropWhile_cons_of_neg (by simpa using other), List.reverse_cons, List.reverse_reverse]

/-- The last digit of a number that ten does not divide is not zero. -/
lemma getLast?_digits {n : Nat} (h : n % 10 ≠ 0) : (digits n).getLast? ≠ some '0' := by
  obtain ⟨front, last, hdigits, hlast⟩ := exists_digits_eq_concat n
  rw [hdigits, List.getLast?_concat, ne_eq, Option.some.injEq, hlast]
  exact h

/-- Only a text with a zero at its end ends with a point and a zero. -/
lemma dropPointZero_of_getLast? {text : List Char} (h : text.getLast? ≠ some '0') :
    Binary64.dropPointZero text = text := by
  rcases dropPointZero_cases text with ⟨front, rfl, -⟩ | ⟨-, same⟩
  · rw [List.getLast?_append] at h
    exact absurd rfl h
  · exact same

/-- With the point in front of all digits, the zeros between them do not count. -/
lemma significantDigits_front {n : Nat} (h : n % 10 ≠ 0) (nonzero : n ≠ 0) (zeros : Nat) :
    significantDigits (Binary64.dropPointZero
      ('0' :: '.' :: (List.replicate zeros '0' ++ digits n))) = digits n := by
  have last : ('0' :: '.' :: (List.replicate zeros '0' ++ digits n)).getLast? ≠ some '0' := by
    rw [← List.cons_append, ← List.cons_append, List.getLast?_append_of_ne_nil _ (digits_ne_nil n)]
    exact getLast?_digits h
  have fraction : ∀ c ∈ List.replicate zeros '0' ++ digits n, c.isDigit = true := by
    intro c hc
    rcases List.mem_append.mp hc with hzero | hdigit
    · exact isDigit_of_mem_zeros hzero
    · exact isDigit_of_mem_digits hdigit
  have parts := @significantDigits_parts ['0'] _ (by simp) fraction
  have kept := dropWhile_zeros_append nonzero (zeros + 1) []
  rw [List.append_nil, List.replicate_succ] at kept
  rw [dropPointZero_of_getLast? last]
  exact parts.trans kept

/-- With the point behind all digits, neither the zeros between them count nor the one behind it, which
is not displayed. -/
lemma significantDigits_back {n : Nat} (h : n % 10 ≠ 0) (nonzero : n ≠ 0) (zeros : Nat) :
    significantDigits (Binary64.dropPointZero
      (digits n ++ List.replicate zeros '0' ++ ['.', '0'])) = digits n := by
  have whole : ∀ c ∈ digits n ++ List.replicate zeros '0', c.isDigit = true := by
    intro c hc
    rcases List.mem_append.mp hc with hdigit | hzero
    · exact isDigit_of_mem_digits hdigit
    · exact isDigit_of_mem_zeros hzero
  have kept := dropWhile_zeros_append nonzero 0 (List.replicate zeros '0')
  rw [List.replicate_zero, List.nil_append] at kept
  rcases dropPointZero_cases (digits n ++ List.replicate zeros '0' ++ ['.', '0']) with
    ⟨front, split, short⟩ | ⟨without, -⟩
  · obtain rfl := List.append_cancel_right split
    rw [short, significantDigits_whole whole, kept, rdropWhile_digits_append h]
  · exact absurd (List.suffix_append _ _) without

/-- With the point among the digits, all of them count. -/
lemma significantDigits_inside {n point : Nat} (h : n % 10 ≠ 0) (nonzero : n ≠ 0)
    (hback : point < (digits n).length) :
    significantDigits (Binary64.dropPointZero
      ((digits n).take point ++ '.' :: (digits n).drop point)) = digits n := by
  have last : ((digits n).take point ++ '.' :: (digits n).drop point).getLast? ≠ some '0' := by
    have some : (digits n).drop point ≠ [] := by
      rw [ne_eq, List.drop_eq_nil_iff]
      omega
    rw [List.append_cons, List.getLast?_append_of_ne_nil _ some, List.getLast?_drop, if_neg (by omega)]
    exact getLast?_digits h
  rw [dropPointZero_of_getLast? last,
    significantDigits_parts (fun c hc => isDigit_of_mem_digits (List.mem_of_mem_take hc))
      (fun c hc => isDigit_of_mem_digits (List.mem_of_mem_drop hc)),
    List.take_append_drop, dropWhile_digits nonzero]

/-- **The digits of a decimal that ten does not divide are the significant digits of its text**, in
positional form. -/
lemma significantDigits_positional {coefficient : Nat} (h : coefficient % 10 ≠ 0) (point : Int) :
    significantDigits (Binary64.dropPointZero (positional (digits coefficient) point)) =
      digits coefficient := by
  have nonzero : coefficient ≠ 0 := by
    rintro rfl
    exact h rfl
  unfold positional
  split_ifs with hfront hback
  · exact significantDigits_front h nonzero _
  · exact significantDigits_back h nonzero _
  · exact significantDigits_inside h nonzero (by omega)

/-- **The digits of a decimal that ten does not divide are the significant digits of its text**, in
exponential form. -/
lemma significantDigits_exponential {coefficient : Nat} (h : coefficient % 10 ≠ 0) (power : Int) :
    significantDigits (exponential (digits coefficient) power) = digits coefficient := by
  have nonzero : coefficient ≠ 0 := by
    rintro rfl
    exact h rfl
  have digit : ∀ c ∈ digits coefficient, c.isDigit = true := fun c hc => isDigit_of_mem_digits hc
  have kept := dropWhile_digits nonzero
  have ends := rdropWhile_digits_append h 0
  rw [List.replicate_zero, List.append_nil] at ends
  obtain ⟨first, rest, hdigits, -⟩ := exists_digits_eq_cons nonzero
  rw [hdigits] at digit kept ends ⊢
  cases rest with
  | nil =>
      have single : exponential [first] power =
          [first] ++ 'e' :: (powerMark power).drop 1 := rfl
      rw [single, significantDigits_append_mark (notMem_of_digits digit).1,
        significantDigits_whole digit, kept, ends]
  | cons second more =>
      have parted : exponential (first :: second :: more) power =
          ([first] ++ '.' :: second :: more) ++ 'e' :: (powerMark power).drop 1 := rfl
      have hfirst : ∀ c ∈ [first], c.isDigit = true := fun c hc =>
        digit c (List.mem_cons.mpr (Or.inl (List.mem_singleton.mp hc)))
      have hmore : ∀ c ∈ second :: more, c.isDigit = true := fun c hc =>
        digit c (List.mem_cons_of_mem _ hc)
      rw [parted, significantDigits_append_mark (exponentMark_notMem_parts hfirst hmore),
        significantDigits_parts hfirst hmore]
      exact kept

/-- **The digits of a decimal that ten does not divide are the significant digits of its text**, in
plain form and without a final point and zero. -/
lemma significantDigits_dropPointZero {d : Decimal} (h : d.coefficient % 10 ≠ 0) :
    significantDigits (Binary64.dropPointZero d.plainForm) = digits d.coefficient := by
  unfold plainForm
  simp only
  split
  · exact significantDigits_positional h _
  · rw [d.dropPointZero_exponential]
    exact significantDigits_exponential h _

end Decimal

/-! ## What is displayed among all decimals -/

/-- A rational number is a decimal with so many significant digits at most. -/
def IsDecimal (size : Nat) (q : ℚ) : Prop :=
  ∃ coefficient exponent : ℤ, coefficient.natAbs < 10 ^ size ∧ q = coefficient * 10 ^ exponent

namespace Binary64

/-- What a rational number of either sign rounds to. -/
def RoundsTo (q : ℚ) (x : Binary64) : Prop :=
  if q < 0 then Rounds (-q) x.neg else Rounds q x

/-- What rounds to a finite number has its sign, and its absolute value rounds to the magnitude. -/
lemma RoundsTo.abs {q : ℚ} {negative : Bool} {m : Magnitude}
    (h : RoundsTo q (.finite negative m)) :
    q = (if negative then -|q| else |q|) ∧ Rounds |q| (.finite false m) := by
  unfold RoundsTo at h
  split_ifs at h with below
  · have sign := h.not_negative.2
    cases negative with
    | false => cases sign
    | true =>
        rw [abs_of_neg below]
        exact ⟨(Rat.neg_neg q).symm, h⟩
  · have sign := h.not_negative.2
    cases negative with
    | true => cases sign
    | false =>
        rw [abs_of_nonneg (not_lt.mp below)]
        exact ⟨rfl, h⟩

/-- A positive number with a sign rounds to what it rounds to without, with the sign. -/
lemma roundsTo_signed {q : ℚ} {m : Magnitude} (positive : 0 < q) (h : Rounds q (.finite false m))
    (negative : Bool) : RoundsTo (if negative then -q else q) (.finite negative m) := by
  unfold RoundsTo
  cases negative with
  | false =>
      rw [if_neg Bool.false_ne_true, if_neg (not_lt.mpr positive.le)]
      exact h
  | true =>
      rw [if_pos rfl, if_pos (neg_neg_of_pos positive), Rat.neg_neg]
      exact h

end Binary64

/-- A common sign does not matter to a distance. -/
lemma abs_signed_sub_signed (negative : Bool) (p q : ℚ) :
    |(if negative then -p else p) - (if negative then -q else q)| = |p - q| := by
  cases negative with
  | false => rfl
  | true =>
      simp only [if_true]
      rw [neg_sub_neg, abs_sub_comm]

/-- What the value of a decimal rounds to is the magnitude nearest to the decimal. -/
lemma Magnitude.ofDecimal_eq_of_rounds {d : Decimal} {m : Magnitude}
    (h : Binary64.Rounds d.rational (.finite false m)) : ofDecimal d = some m := by
  have answer := Binary64.eq_ofDecimal_of_rounds h
  unfold Binary64.ofDecimal at answer
  split at answer
  · rename_i found
    rw [found, (Binary64.finite.inj answer).2]
  · cases answer

/-- A decimal of value zero is nearest to no other magnitude than zero. -/
lemma Magnitude.coefficient_pos {d : Decimal} {m : Magnitude} (nonzero : m.units ≠ 0)
    (h : ofDecimal d = some m) : 0 < d.coefficient := by
  rw [Nat.pos_iff_ne_zero]
  intro none
  rw [ofDecimal_eq_ofRatio, Decimal.numerator, none, Nat.zero_mul, Nat.zero_mul,
    ofRatio_zero _ d.denominator_pos] at h
  obtain rfl := Option.some.inj h
  exact nonzero rfl

/-- A decimal without its sign. -/
lemma IsDecimal.exists_abs {size : Nat} {q : ℚ} (h : IsDecimal size q) :
    ∃ d : Decimal, d.coefficient < 10 ^ size ∧ |q| = d.rational := by
  obtain ⟨coefficient, exponent, short, rfl⟩ := h
  refine ⟨⟨coefficient.natAbs, exponent⟩, short, ?_⟩
  rw [Decimal.rational, abs_mul, abs_of_pos (zpow_pos (show (0 : ℚ) < 10 by norm_num) _),
    Nat.cast_natAbs, Int.cast_abs]

/-- A decimal with a sign has as many significant digits as its coefficient. -/
lemma Decimal.isDecimal_signed (d : Decimal) (negative : Bool) :
    IsDecimal (digits d.coefficient).length (if negative then -d.rational else d.rational) := by
  refine ⟨if negative then -d.coefficient else d.coefficient, d.exponent, ?_, ?_⟩
  · have short := lt_pow_length_digits d.coefficient
    cases negative <;> simpa using short
  · rw [rational]
    cases negative <;> simp

/-- **What is displayed of a number other than zero, without a fixed number of places,** is its sign
and the shortest decimal of its magnitude, the digits of which are the significant ones. -/
lemma display_finite {negative : Bool} {m : Magnitude} (nonzero : m.units ≠ 0) :
    Shows ((Binary64.finite negative m).display none).toList
        (if negative then -m.shortest.rational else m.shortest.rational) ∧
      significantDigits ((Binary64.finite negative m).display none).toList =
        Decimal.digits m.shortest.coefficient := by
  have text : ((Binary64.finite negative m).display none).toList =
      signMark negative ++ Binary64.dropPointZero m.shortest.plainForm := by
    rw [Binary64.display, String.toList_ofList, Binary64.shortForm, Binary64.plainForm,
      dropPointZero_signMark]
  rw [text]
  refine ⟨.signed negative m.shortest.denotes_dropPointZero, ?_⟩
  rw [Decimal.significantDigits_signMark,
    Decimal.significantDigits_dropPointZero (Magnitude.shortest_coefficient_mod nonzero)]

/-- **What is displayed is shortest.** Without a fixed number of places, a finite number other than
zero is displayed as a decimal that rounds to it. No decimal with fewer significant digits than the
text has rounds to it, and of those with as many the one that is displayed is nearest. -/
theorem display_shortest {x : Binary64} {v : ℚ} (finite : x.rational? = some v) (nonzero : v ≠ 0) :
    ∃ q, Shows (x.display none).toList q ∧
      IsDecimal (significantDigits (x.display none).toList).length q ∧ x.RoundsTo q ∧
        ∀ q' size, IsDecimal size q' → Binary64.RoundsTo q' x →
          (significantDigits (x.display none).toList).length ≤ size ∧
            (size = (significantDigits (x.display none).toList).length → |q - v| ≤ |q' - v|) := by
  cases x with
  | nan => cases finite
  | infinity negative => cases finite
  | finite negative m =>
      obtain rfl : (if negative then -m.rational else m.rational) = v := Option.some.inj finite
      have some : m.units ≠ 0 := by
        intro zero
        rw [Magnitude.units_eq_zero_iff.mp zero, Magnitude.rational_zero] at nonzero
        cases negative <;> simp at nonzero
      have positive : 0 < m.shortest.rational :=
        mul_pos (Nat.cast_pos.mpr (Magnitude.coefficient_pos some m.ofDecimal_shortest))
          (zpow_pos (by norm_num) _)
      obtain ⟨shows, digits⟩ := @display_finite negative m some
      rw [digits]
      refine ⟨_, shows, m.shortest.isDecimal_signed negative,
        Binary64.roundsTo_signed positive m.rounds_shortest negative, ?_⟩
      intro q' size hsize hround
      obtain ⟨sign, hrounds⟩ := hround.abs
      obtain ⟨d, short, habs⟩ := hsize.exists_abs
      rw [habs] at sign hrounds
      have read := Magnitude.ofDecimal_eq_of_rounds hrounds
      obtain ⟨fewest, nearest⟩ := Magnitude.shortest_fewest some read
      have coefficient := Magnitude.coefficient_pos some read
      -- no digits at all are those of zero only
      have some : 0 < size := by
        rw [Nat.pos_iff_ne_zero]
        rintro rfl
        exact absurd short (by omega)
      have bound := (Decimal.length_digits_le_iff some).mpr short
      refine ⟨fewest.trans bound, fun same => ?_⟩
      rw [sign, abs_signed_sub_signed, abs_signed_sub_signed]
      exact nearest (by omega)

/-- The number nearest to `10 ^ 23`, which is half way to the next number. -/
def Binary64.hundredSextillions : Binary64 := .finite false ⟨5960464477539062, 1098, by decide⟩

/-- One significant digit, at an end point of the interval that rounds to the number. -/
theorem display_shortest_hundredSextillions :
    Binary64.hundredSextillions.rational? = some 99999999999999991611392 ∧
      ∃ q, Shows "1e+23".toList q ∧ IsDecimal (significantDigits "1e+23".toList).length q ∧
        Binary64.hundredSextillions.RoundsTo q ∧
          ∀ q' size, IsDecimal size q' → Binary64.RoundsTo q' .hundredSextillions →
            (significantDigits "1e+23".toList).length ≤ size ∧
              (size = (significantDigits "1e+23".toList).length →
                |q - 99999999999999991611392| ≤ |q' - 99999999999999991611392|) := by
  have text : Binary64.hundredSextillions.display none = "1e+23" := by decide +kernel
  have counted : Magnitude.units ⟨5960464477539062, 1098, by decide⟩ =
      99999999999999991611392 * Magnitude.unitsOfOne := by decide +kernel
  have value : Binary64.hundredSextillions.rational? = some 99999999999999991611392 := by
    rw [Binary64.hundredSextillions, Binary64.rational?, if_neg Bool.false_ne_true,
      Magnitude.rational, counted, Nat.cast_mul, mul_div_cancel_right₀ _ Magnitude.unitsOfOne_pos.ne']
    rfl
  have shortest := display_shortest value (by norm_num)
  rw [text] at shortest
  exact ⟨value, shortest⟩

end Calculator
