import Mathlib.Data.Bool.AllAny
import Calculator.Proofs.Calculation.Composition
import Calculator.Proofs.Decimal.Notation

/-!
# Displayed numbers read back

A number in short form is shown with the fewest digits that read back, and without a final point and
zero. None of this changes what the text denotes.

* A decimal in plain form denotes its own value, in positional form
  (`Decimal.numeralValue_positional`) and in exponential form (`Decimal.denotes_exponential`), and it
  still does without a final point and zero (`Decimal.denotes_dropPointZero`). In exponential form
  there is none: the last two characters are digits of the power of ten.
* Since the shortest decimal rounds to its magnitude, a number in short form is read as itself
  (`readsAs_display`).
* A text of digits and points that is read as a number is a numeral (`ReadsAs.isNumeral`), and a
  numeral is calculated as the number that its value rounds to (`calculate_of_isNumeral`).

`display_readsBack` puts this together: no two numbers are displayed alike, and the numbers that the
language can write are calculated from what is displayed.
-/

namespace Calculator

/-! ## What is written -/

namespace Decimal

/-- A text that is read as a decimal of digits and points denotes the value of the decimal. -/
lemma denotes_of_ofNumeral? {text : List Char} {d : Decimal}
    (chars : ∀ c ∈ text, isNumeralChar c = true) (h : ofNumeral? text = some d) :
    IsNumeral text ∧ numeralValue text = d.rational :=
  ⟨isNumeral_of_ofNumeral? chars h, numeralValue_eq_rational h⟩

/-- **Digits in positional form denote the value of the decimal.** -/
lemma numeralValue_positional (d : Decimal) :
    IsNumeral (positional (digits d.coefficient) (d.leadingPower + 1)) ∧
      numeralValue (positional (digits d.coefficient) (d.leadingPower + 1)) = d.rational := by
  obtain ⟨coefficient, exponent⟩ := d
  have point : leadingPower ⟨coefficient, exponent⟩ + 1 =
      exponent + (digits coefficient).length := by
    simp only [leadingPower]
    omega
  have chars : ∀ c ∈ positional (digits coefficient) (exponent + (digits coefficient).length),
      isNumeralChar c = true := by
    intro c hc
    rcases mem_positional hc with digit | rfl | rfl
    · exact isNumeralChar_of_isDigit (isDigit_of_mem_digits digit)
    · rfl
    · rfl
  simp only [point]
  unfold positional at chars ⊢
  by_cases hfront : exponent + (digits coefficient).length ≤ 0
  · simp only [if_pos hfront] at chars ⊢
    exact denotes_of_ofNumeral? chars (ofNumeral?_front hfront)
  · simp only [if_neg hfront] at chars ⊢
    by_cases hback : ((digits coefficient).length : Int) ≤ exponent + (digits coefficient).length
    · simp only [if_pos hback] at chars ⊢
      obtain ⟨numeral, value⟩ := denotes_of_ofNumeral? chars (ofNumeral?_back coefficient _)
      refine ⟨numeral, value.trans ?_⟩
      rw [← rational_zeros coefficient _ exponent]
      congr 2
      omega
    · simp only [if_neg hback] at chars ⊢
      obtain ⟨numeral, value⟩ :=
        denotes_of_ofNumeral? chars (@ofNumeral?_inside coefficient _ (by omega) (by omega))
      refine ⟨numeral, value.trans ?_⟩
      congr 2
      omega

/-- A power of ten is written with a sign and at least two digits. -/
lemma exists_powerMark (power : Int) :
    ∃ text : List Char, powerMark power = 'e' :: (if power < 0 then '-' else '+') :: text ∧
      2 ≤ text.length ∧ (∀ c ∈ text, c.isDigit = true) ∧ ofDigits text = power.natAbs := by
  have nonempty := List.length_pos_of_ne_nil (digits_ne_nil power.natAbs)
  have zero : ofDigits ('0' :: digits power.natAbs) = ofDigits (digits power.natAbs) :=
    ofDigits_zeros_append 1 _
  unfold powerMark
  by_cases short : (digits power.natAbs).length < 2
  · refine ⟨'0' :: digits power.natAbs, by simp only [short, if_true], ?_, ?_, ?_⟩
    · rw [List.length_cons]
      omega
    · intro c hc
      rcases List.mem_cons.mp hc with rfl | hc
      · rfl
      · exact isDigit_of_mem_digits hc
    · rw [zero, ofDigits_digits]
  · refine ⟨digits power.natAbs, by simp only [short, if_false], by omega, ?_, ?_⟩
    · exact fun c hc => isDigit_of_mem_digits hc
    · rw [ofDigits_digits]

/-- Digits alone are a numeral. -/
lemma ofNumeral?_digits {whole : List Char} (hwhole : ∀ c ∈ whole, c.isDigit = true)
    (hsome : whole ≠ []) : ofNumeral? whole = some (ofParts whole []) := by
  have all : whole.takeWhile Char.isDigit = whole := List.takeWhile_eq_self_iff.mpr hwhole
  have none : whole.dropWhile Char.isDigit = [] := List.dropWhile_eq_nil_iff.mpr hwhole
  simp only [ofNumeral?, all, none]
  rw [if_neg (by simpa using hsome)]

/-- Digits alone denote their number. -/
lemma denotes_digits {whole : List Char} (hwhole : ∀ c ∈ whole, c.isDigit = true)
    (hsome : whole ≠ []) :
    IsNumeral whole ∧ numeralValue whole = (ofParts whole []).rational :=
  denotes_of_ofNumeral? (fun c hc => isNumeralChar_of_isDigit (hwhole c hc))
    (ofNumeral?_digits hwhole hsome)

/-- Digits on either side of a point denote their number, divided by a power of ten. -/
lemma denotes_parts {whole fraction : List Char} (hwhole : ∀ c ∈ whole, c.isDigit = true)
    (hfraction : ∀ c ∈ fraction, c.isDigit = true) (hsome : whole ≠ []) :
    IsNumeral (whole ++ '.' :: fraction) ∧
      numeralValue (whole ++ '.' :: fraction) = (ofParts whole fraction).rational := by
  refine denotes_of_ofNumeral? ?_ (ofNumeral?_parts hwhole hfraction hsome)
  intro c hc
  rcases List.mem_append.mp hc with hc | hc
  · exact isNumeralChar_of_isDigit (hwhole c hc)
  · rcases List.mem_cons.mp hc with rfl | hc
    · rfl
    · exact isNumeralChar_of_isDigit (hfraction c hc)

/-- Digits in exponential form are a numeral before their power of ten, and the numeral has the value
of the digits with the point behind the first one. -/
lemma exists_exponential (d : Decimal) :
    ∃ text, exponential (digits d.coefficient) d.leadingPower = text ++ powerMark d.leadingPower ∧
      IsNumeral text ∧
        numeralValue text = rational ⟨d.coefficient, d.exponent - d.leadingPower⟩ := by
  obtain ⟨coefficient, exponent⟩ := d
  have digit : ∀ c ∈ digits coefficient, c.isDigit = true := fun c hc => isDigit_of_mem_digits hc
  have value := ofDigits_digits coefficient
  obtain ⟨first, rest, hdigits⟩ := List.exists_cons_of_ne_nil (digits_ne_nil coefficient)
  have shift : exponent - leadingPower ⟨coefficient, exponent⟩ = -(rest.length : Int) := by
    simp only [leadingPower, hdigits, List.length_cons]
    omega
  rw [hdigits] at digit value
  have parts : ofParts [first] rest = ⟨coefficient, -(rest.length : Int)⟩ := by
    rw [ofParts, List.singleton_append, value]
  simp only [shift, ← parts, hdigits]
  have hfirst : ∀ c ∈ [first], c.isDigit = true := fun c hc =>
    digit c (List.mem_cons.mpr (Or.inl (List.mem_singleton.mp hc)))
  have hrest : ∀ c ∈ rest, c.isDigit = true := fun c hc => digit c (List.mem_cons_of_mem _ hc)
  cases rest with
  | nil => exact ⟨[first], rfl, denotes_digits hfirst (by simp)⟩
  | cons second more =>
      exact ⟨[first] ++ '.' :: second :: more, rfl, denotes_parts hfirst hrest (by simp)⟩

/-- **Digits in exponential form denote the value of the decimal.** -/
lemma denotes_exponential (d : Decimal) :
    Denotes (exponential (digits d.coefficient) d.leadingPower) d.rational := by
  obtain ⟨text, written, numeral, value⟩ := d.exists_exponential
  obtain ⟨power, mark, length, digit, magnitude⟩ := exists_powerMark d.leadingPower
  have some : power ≠ [] := by
    rintro rfl
    simp at length
  have denotes := Denotes.power (d.leadingPower < 0) numeral some digit
  have shift : (if (decide (d.leadingPower < 0)) = true then -(ofDigits power : ℤ)
      else ofDigits power) = d.leadingPower := by
    rw [magnitude]
    simp only [decide_eq_true_eq]
    split <;> omega
  have whole : d.rational = numeralValue text * 10 ^ d.leadingPower := by
    rw [value, ← rational_shift, Int.sub_add_cancel]
  rw [shift, ← whole] at denotes
  rw [written, mark]
  simpa only [decide_eq_true_eq] using denotes

/-- **A decimal in plain form denotes its value.** -/
lemma denotes_plainForm (d : Decimal) : Denotes d.plainForm d.rational := by
  unfold plainForm
  simp only
  split
  · obtain ⟨numeral, value⟩ := d.numeralValue_positional
    rw [← value]
    exact .numeral numeral
  · exact d.denotes_exponential

/-! ## A final point and zero -/

/-- Only a final point and zero are dropped. -/
lemma dropPointZero_cases (text : List Char) :
    (∃ front, text = front ++ ['.', '0'] ∧ Binary64.dropPointZero text = front) ∨
      ¬ ['.', '0'] <:+ text ∧ Binary64.dropPointZero text = text := by
  unfold Binary64.dropPointZero
  by_cases h : ['.', '0'] <:+ text
  · obtain ⟨front, rfl⟩ := h
    left
    refine ⟨front, rfl, ?_⟩
    rw [if_pos (by simp)]
    simp
  · right
    rw [if_neg (by simpa using h)]
    exact ⟨h, rfl⟩

/-- Digits in positional form are three characters or more. -/
lemma length_positional {digits : List Char} (point : Int) (h : digits ≠ []) :
    3 ≤ (positional digits point).length := by
  have := List.length_pos_of_ne_nil h
  unfold positional
  split_ifs
  · simp only [List.length_cons, List.length_append]
    omega
  · simp only [List.length_append, List.length_cons]
    omega
  · simp only [List.length_append, List.length_cons, List.length_take, List.length_drop]
    omega

/-- A numeral keeps its value without a final point and zero, if something is left. -/
lemma numeralValue_dropPointZero {front : List Char} (h : IsNumeral (front ++ ['.', '0']))
    (some : front ≠ []) :
    IsNumeral front ∧ numeralValue front = numeralValue (front ++ ['.', '0']) := by
  have noPoint : front.count '.' = 0 := by
    have points := h.points
    rw [List.count_append] at points
    have tail : ['.', '0'].count '.' = 1 := rfl
    omega
  have digit : ∀ c ∈ front, c.isDigit = true := by
    intro c hc
    have char := h.chars c (List.mem_append_left _ hc)
    rw [isNumeralChar, Bool.or_eq_true, decide_eq_true_eq] at char
    rcases char with digit | rfl
    · exact digit
    · exact absurd hc (List.count_eq_zero.mp noPoint)
  obtain ⟨numeral, value⟩ := denotes_digits digit some
  refine ⟨numeral, ?_⟩
  rw [value, (@denotes_parts front ['0'] digit (by simp) some).2, ofParts, ofParts, List.append_nil]
  have zero := ofDigits_append_zeros front 1
  rw [List.replicate_one] at zero
  rw [zero]
  exact (rational_zeros _ 1 0).symm

/-- In exponential form there is no final point and zero: the last two characters are digits of the
power of ten. -/
lemma dropPointZero_exponential (d : Decimal) :
    Binary64.dropPointZero (exponential (digits d.coefficient) d.leadingPower) =
      exponential (digits d.coefficient) d.leadingPower := by
  obtain ⟨text, written, -, -⟩ := d.exists_exponential
  obtain ⟨power, mark, length, digit, -⟩ := exists_powerMark d.leadingPower
  rcases dropPointZero_cases (exponential (digits d.coefficient) d.leadingPower) with
    ⟨front, split, -⟩ | ⟨-, same⟩
  · exfalso
    rw [written, mark] at split
    have point : '.' ∈ power := by
      have tail : ['.', '0'] <:+ power := by
        have atEnd : power <:+ front ++ ['.', '0'] := by
          rw [← split]
          exact ⟨text ++ ['e', if d.leadingPower < 0 then '-' else '+'], by simp⟩
        exact List.suffix_of_suffix_length_le (List.suffix_append front _) atEnd length
      exact tail.subset (by simp)
    exact absurd (digit _ point) (by decide)
  · exact same

/-- **A decimal in plain form denotes its value**, also without a final point and zero. -/
lemma denotes_dropPointZero (d : Decimal) :
    Denotes (Binary64.dropPointZero d.plainForm) d.rational := by
  unfold plainForm
  simp only
  split
  · obtain ⟨numeral, value⟩ := d.numeralValue_positional
    have long := length_positional (d.leadingPower + 1) (digits_ne_nil d.coefficient)
    rw [← value]
    generalize positional (digits d.coefficient) (d.leadingPower + 1) = text at *
    rcases dropPointZero_cases text with ⟨front, rfl, short⟩ | ⟨-, same⟩
    · have some : front ≠ [] := by
        rintro rfl
        simp at long
      obtain ⟨numeral', value'⟩ := numeralValue_dropPointZero numeral some
      rw [short, ← value']
      exact .numeral numeral'
    · rw [same]
      exact .numeral numeral
  · rw [d.dropPointZero_exponential]
    exact d.denotes_exponential

end Decimal

/-! ## What is displayed -/

/-- A sign in front is no part of a final point and zero. -/
lemma dropPointZero_signMark (negative : Bool) (text : List Char) :
    Binary64.dropPointZero (signMark negative ++ text) =
      signMark negative ++ Binary64.dropPointZero text := by
  cases negative with
  | false => rfl
  | true =>
      show Binary64.dropPointZero ('-' :: text) = '-' :: Binary64.dropPointZero text
      have suffix : ['.', '0'] <:+ '-' :: text ↔ ['.', '0'] <:+ text := by
        rw [List.suffix_cons_iff]
        simp
      rcases Decimal.dropPointZero_cases text with ⟨front, rfl, short⟩ | ⟨other, same⟩
      · rw [short]
        simp [Binary64.dropPointZero]
      · rw [same]
        rcases Decimal.dropPointZero_cases ('-' :: text) with ⟨front, split, -⟩ | ⟨-, same'⟩
        · exact absurd (suffix.mp ⟨front, split.symm⟩) other
        · exact same'

/-- The shortest decimal that reads back rounds to its magnitude. -/
lemma Magnitude.rounds_shortest (m : Magnitude) :
    Binary64.Rounds m.shortest.rational (.finite false m) := by
  have nearest := Binary64.rounds_ofDecimal m.shortest
  rwa [← Decimal.rational_eq, Binary64.ofDecimal, Magnitude.ofDecimal_shortest] at nearest

/-- **A number in plain form is read as itself**, if it is a number. -/
lemma readsAs_text {x : Binary64} (h : x ≠ .nan) : ReadsAs x.text.toList x := by
  rw [Binary64.text, String.toList_ofList]
  cases x with
  | nan => exact absurd rfl h
  | infinity negative => exact .infinity negative
  | finite negative m =>
      have reads := ReadsAs.rounded negative m.shortest.denotes_plainForm m.rounds_shortest
      cases negative <;> exact reads

/-- **The reader takes a number in plain form for the number**, also where it is none. -/
lemma Binary64.ofText?_text (x : Binary64) : ofText? x.text.toList = some x := by
  by_cases h : x = .nan
  · rw [h, Binary64.text, String.toList_ofList]
    decide
  · exact (readsAs_text h).ofText?_eq

/-- **A number in short form is read as itself**, if it is a number. -/
lemma readsAs_display {x : Binary64} (h : x ≠ .nan) : ReadsAs (x.display none).toList x := by
  rw [Binary64.display, String.toList_ofList, Binary64.shortForm]
  cases x with
  | nan => exact absurd rfl h
  | infinity negative =>
      have kept : Binary64.dropPointZero ['i', 'n', 'f'] = ['i', 'n', 'f'] := by decide
      rw [Binary64.plainForm, dropPointZero_signMark, kept]
      exact .infinity negative
  | finite negative m =>
      have reads := ReadsAs.rounded negative m.shortest.denotes_dropPointZero m.rounds_shortest
      rw [Binary64.plainForm, dropPointZero_signMark]
      cases negative <;> exact reads

/-- A text of digits and points that is read as a number is a numeral of which the value rounds to
the number. -/
lemma ReadsAs.isNumeral {text : List Char} {x : Binary64} (h : ReadsAs text x)
    (chars : ∀ c ∈ text, c.isDigit = true ∨ c = '.') :
    IsNumeral text ∧ Binary64.Rounds (numeralValue text) x := by
  have other : ∀ c, c.isDigit = false → c ≠ '.' → c ∉ text := by
    intro c noDigit noPoint hc
    rcases chars c hc with digit | point
    · rw [noDigit] at digit
      cases digit
    · exact noPoint point
  cases h with
  | infinity negative => exact absurd (by simp) (other 'i' rfl (by decide))
  | rounded negative denotes rounds =>
      cases negative with
      | true => exact absurd (by simp [signMark]) (other '-' rfl (by decide))
      | false =>
          cases denotes with
          | numeral numeral => exact ⟨numeral, rounds⟩
          | power => exact absurd (by simp) (other 'e' rfl (by decide))

/-- A numeral is calculated as the number that its value rounds to. -/
lemma calculate_of_isNumeral {text : List Char} {x : Binary64} (h : IsNumeral text)
    (rounds : Binary64.Rounds (numeralValue text) x) (allowTrailing : Bool) :
    (calculate (String.ofList text) allowTrailing).outcome = .ok ⟨.leaf x, x⟩ := by
  obtain ⟨value, htokens, hvalue⟩ := tokenize_of_isNumeral h
  obtain rfl : value = x :=
    ReadsAs.unique (.rounded false (.numeral h) hvalue) (.rounded false (.numeral h) rounds)
  have leads : Leads (String.ofList text) [⟨.number value, 0⟩] (.leaf value)
      ⟨.endOfInput, text.length⟩ :=
    ⟨⟨[], none, htokens⟩, .single (.single (.number value)), by simp [nestsWithin_cons_iff], rfl⟩
  rw [outcome_calculate_eq_ok_iff, parseExpr_of_leads leads]
  exact ⟨rfl, rfl⟩

/-- **Displayed numbers lose nothing.** What is displayed of a number without a fixed number of places
is read as that number and as no other one, and the reader answers with it; so different numbers are
displayed differently. A text of digits and points that is displayed is calculated as the number. -/
theorem display_readsBack :
    (∀ x : Binary64, x ≠ .nan →
      (∀ y, ReadsAs (x.display none).toList y ↔ y = x) ∧
        Binary64.ofText? (x.display none).toList = some x) ∧
    (∀ x y : Binary64, x ≠ .nan → y ≠ .nan → x.display none = y.display none → x = y) ∧
    ∀ x : Binary64, (∀ c ∈ (x.display none).toList, c.isDigit = true ∨ c = '.') →
      ∀ allowTrailing,
        (calculate (x.display none) allowTrailing).outcome = .ok ⟨.leaf x, x⟩ := by
  refine ⟨?_, ?_, ?_⟩
  · intro x h
    have reads := readsAs_display h
    refine ⟨fun y => ⟨fun other => other.unique reads, ?_⟩, reads.ofText?_eq⟩
    rintro rfl
    exact reads
  · intro x y hx hy same
    have reads := readsAs_display hy
    rw [← same] at reads
    exact (readsAs_display hx).unique reads
  · intro x chars allowTrailing
    have number : x ≠ .nan := by
      rintro rfl
      exact absurd (chars 'n' (by decide)) (by decide)
    obtain ⟨numeral, rounds⟩ := (readsAs_display number).isNumeral chars
    have calculated := calculate_of_isNumeral numeral rounds allowTrailing
    rwa [String.ofList_toList] at calculated

/-- The least positive number. -/
def Binary64.least : Binary64 := .finite false ⟨1, 0, by decide⟩

/-- The least positive number in exponential form, the two zeros, and a number without its point. -/
theorem display_readsBack_extremes :
    (∀ y, ReadsAs "5e-324".toList y ↔ y = .least) ∧
      Binary64.zero.display none ≠ Binary64.zero.neg.display none ∧
      ∀ allowTrailing, (calculate "1" allowTrailing).outcome = .ok ⟨.leaf .one, .one⟩ := by
  have least : Binary64.least.display none = "5e-324" := by decide +kernel
  have one : Binary64.one.display none = "1" := by decide +kernel
  refine ⟨?_, ?_, ?_⟩
  · rw [← least]
    exact (display_readsBack.1 .least (by decide)).1
  · intro same
    have equal := display_readsBack.2.1 .zero (Binary64.zero.neg) (by decide) (by decide) same
    exact absurd equal (by decide)
  · rw [← one]
    refine display_readsBack.2.2 .one ?_
    rw [one]
    exact List.all_iff_forall_prop.mp (by decide)

end Calculator
