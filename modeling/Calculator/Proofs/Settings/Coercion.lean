import Calculator.Proofs.Binary64.Rational
import Calculator.Settings

/-!
# What stands for the value of a setting

A setting may be given by values of several kinds. Which values stand for what is said here by one
relation for each setting, over all kinds of values and without the coercions: a number is compared
by its exact value (`GivesPrecision.float`, `GivesTruth.float`), a word by its letters in one case.

The four coercions follow these relations, in both directions (`promptOf_eq_ok_iff`,
`precisionOf_eq_ok_iff`, `trailingOf_eq_ok_iff`, `levelOf_eq_ok_iff`).

The settings themselves are entries of a table, and not only tables stand for one (`ActsAs`,
`asTable_eq_ok_iff`).
-/

namespace Calculator

/-! ## Results and faults -/

section Answers

variable {Fault Fault' α β : Type} {answer : Except Fault α}

/-- A step behind an answer has a result if there is one before it that the step has one for. -/
lemma bind_eq_ok_iff {step : α → Except Fault β} {result : β} :
    answer.bind step = .ok result ↔ ∃ a, answer = .ok a ∧ step a = .ok result := by
  cases answer <;> simp [Except.bind]

/-- A fault that is renamed is there before. -/
lemma mapError_eq_error_iff {f : Fault → Fault'} {fault : Fault'} :
    answer.mapError f = .error fault ↔ ∃ found, answer = .error found ∧ f found = fault := by
  cases answer <;> simp [Except.mapError]

end Answers

/-! ## Whole numbers among the binary64 numbers -/

/-- The value of a magnitude is a whole number if the magnitude is so many ones. -/
lemma Magnitude.rational_eq_intCast_iff {m : Magnitude} {n : Int} :
    m.rational = n ↔ ∃ whole : Nat, n = whole ∧ m.units = whole * unitsOfOne := by
  have scale : (unitsOfOne : ℚ) ≠ 0 := unitsOfOne_pos.ne'
  constructor
  · intro h
    have nonneg : (0 : ℚ) ≤ (n : ℚ) := h ▸ m.rational_nonneg
    obtain ⟨whole, rfl⟩ := Int.eq_ofNat_of_zero_le (Int.cast_nonneg_iff.mp nonneg)
    refine ⟨whole, rfl, ?_⟩
    rw [rational, div_eq_iff scale] at h
    exact_mod_cast h
  · rintro ⟨whole, rfl, h⟩
    rw [rational, div_eq_iff scale, h]
    push_cast
    ring

namespace Settings

open Document

/-- A finite number is a whole number if it is so many ones, and not too many of them. -/
lemma wholeOf_finite_eq_ok_iff {negative : Bool} {m : Magnitude} {n : Int} :
    wholeOf (.finite negative m) = .ok n ↔
      ∃ whole : Nat, m.units = whole * Magnitude.unitsOfOne ∧ whole < wordLimit ∧
        n = if negative then -(whole : Int) else whole := by
  have positive : 0 < Magnitude.unitsOfOne := by exact_mod_cast Magnitude.unitsOfOne_pos
  have opened : wholeOf (.finite negative m) =
      if m.units % Magnitude.unitsOfOne ≠ 0 then .error .noFraction
      else if wordLimit ≤ m.units / Magnitude.unitsOfOne then .error .wholeSize
      else .ok (if negative then -((m.units / Magnitude.unitsOfOne : Nat) : Int)
        else (m.units / Magnitude.unitsOfOne : Nat)) := rfl
  rw [opened]
  generalize Magnitude.unitsOfOne = one at *
  constructor
  · intro h
    by_cases fraction : m.units % one ≠ 0
    · rw [if_pos fraction] at h
      cases h
    by_cases large : wordLimit ≤ m.units / one
    · rw [if_neg fraction, if_pos large] at h
      cases h
    rw [if_neg fraction, if_neg large] at h
    refine ⟨m.units / one, ?_, Nat.not_le.mp large, (Except.ok.inj h).symm⟩
    exact (Nat.div_mul_cancel (Nat.dvd_of_mod_eq_zero (not_not.mp fraction))).symm
  · rintro ⟨whole, units, small, rfl⟩
    rw [units, Nat.mul_mod_left, Nat.mul_div_cancel _ positive, if_neg (not_not.mpr rfl),
      if_neg (Nat.not_le.mpr small)]

/-- **A number is a whole number by its exact value**, if a machine word holds it. -/
lemma wholeOf_eq_ok_iff {x : Binary64} {n : Int} :
    wholeOf x = .ok n ↔ x.rational? = some (n : ℚ) ∧ n.natAbs < wordLimit := by
  cases x with
  | nan => exact ⟨nofun, fun h => nomatch h.1⟩
  | infinity negative => exact ⟨nofun, fun h => nomatch h.1⟩
  | finite negative m =>
      have value : Binary64.rational? (.finite negative m) = some (n : ℚ) ↔
          m.rational = ((if negative then -n else n : Int) : ℚ) := by
        rw [Binary64.rational?, Option.some_inj]
        cases negative with
        | false => rfl
        | true =>
            simp only [if_true, Int.cast_neg]
            exact neg_eq_iff_eq_neg
      rw [wholeOf_finite_eq_ok_iff, value, Magnitude.rational_eq_intCast_iff]
      constructor
      · rintro ⟨whole, units, small, rfl⟩
        refine ⟨⟨whole, ?_, units⟩, ?_⟩
        · cases negative <;> simp
        · cases negative <;> simpa using small
      · rintro ⟨⟨whole, same, units⟩, small⟩
        refine ⟨whole, units, ?_, ?_⟩
        · cases negative <;> simp at same <;> omega
        · cases negative <;> simp at same ⊢ <;> omega

/-! ## The prompt -/

/-- What stands for a prompt: a text for itself. -/
inductive GivesPrompt : Value → String → Prop
  /-- A text. -/
  | text (s : String) : GivesPrompt (.text s) s

/-- The coercion of prompts. -/
theorem promptOf_eq_ok_iff {value : Value} {prompt : String} :
    promptOf value = .ok prompt ↔ GivesPrompt value prompt := by
  constructor
  · intro h
    cases value with
    | text s =>
        cases h
        exact .text prompt
    | _ => cases h
  · rintro ⟨⟩
    rfl

/-! ## The precision -/

/-- What stands for a precision: nothing for the short form, and otherwise whatever has the value of
a whole number that is not negative. -/
inductive GivesPrecision : Value → Option Nat → Prop
  /-- Nothing. -/
  | null : GivesPrecision .null none
  /-- A truth value counts as one or zero. -/
  | boolean (b : Bool) : GivesPrecision (.boolean b) (some (if b then 1 else 0))
  /-- A whole number. -/
  | integer (n : Nat) : GivesPrecision (.integer n) (some n)
  /-- A binary64 number without a fraction. -/
  | float {x : Binary64} {n : Nat} (value : x.rational? = some (n : ℚ)) (small : n < wordLimit) :
      GivesPrecision (.float x) (some n)
  /-- The text of a whole number, with its padding. -/
  | text {s : String} {n : Nat} (whole : wholeOfText s.toList = .ok (n : Int)) :
      GivesPrecision (.text s) (some n)

/-- A whole number of places is not negative. -/
lemma placesOf_eq_ok_iff {n : Int} {places : Option Nat} :
    placesOf n = .ok places ↔ ∃ whole : Nat, n = whole ∧ places = some whole := by
  unfold placesOf
  constructor
  · intro h
    split_ifs at h with negative
    · refine ⟨n.toNat, (Int.toNat_of_nonneg (Int.not_lt.mp negative)).symm, ?_⟩
      exact (Except.ok.inj h).symm
  · rintro ⟨whole, rfl, rfl⟩
    rw [if_neg (Int.not_lt.mpr (Int.natCast_nonneg whole)), Int.toNat_natCast]

/-- A whole number that was read first is a number of places if it is not negative. -/
lemma bind_placesOf_eq_ok_iff {read : Except Rule Int} {places : Option Nat} :
    read.bind placesOf = .ok places ↔
      ∃ whole : Nat, read = .ok (whole : Int) ∧ places = some whole := by
  rw [bind_eq_ok_iff]
  constructor
  · rintro ⟨n, hread, hplaces⟩
    obtain ⟨whole, rfl, rfl⟩ := placesOf_eq_ok_iff.mp hplaces
    exact ⟨whole, hread, rfl⟩
  · rintro ⟨whole, hread, rfl⟩
    exact ⟨whole, hread, placesOf_eq_ok_iff.mpr ⟨whole, rfl, rfl⟩⟩

/-- **The coercion of precisions.** -/
theorem precisionOf_eq_ok_iff {value : Value} {places : Option Nat} :
    precisionOf value = .ok places ↔ GivesPrecision value places := by
  constructor
  · intro h
    cases value with
    | null =>
        cases h
        exact .null
    | boolean b =>
        cases h
        exact .boolean b
    | integer n =>
        obtain ⟨whole, rfl, rfl⟩ := placesOf_eq_ok_iff.mp h
        exact .integer whole
    | float x =>
        obtain ⟨whole, read, rfl⟩ := bind_placesOf_eq_ok_iff.mp h
        obtain ⟨value, small⟩ := wholeOf_eq_ok_iff.mp read
        exact .float (by simpa using value) small
    | text s =>
        obtain ⟨whole, read, rfl⟩ := bind_placesOf_eq_ok_iff.mp h
        exact .text read
    | _ => cases h
  · intro h
    cases h with
    | null => rfl
    | boolean b => rfl
    | integer n => exact placesOf_eq_ok_iff.mpr ⟨n, rfl, rfl⟩
    | @float x n value small =>
        have whole : wholeOf x = .ok (n : Int) :=
          wholeOf_eq_ok_iff.mpr ⟨by simpa using value, small⟩
        exact bind_placesOf_eq_ok_iff.mpr ⟨n, whole, rfl⟩
    | @text s n whole => exact bind_placesOf_eq_ok_iff.mpr ⟨n, whole, rfl⟩

/-! ## Trailing tokens -/

/-- A truth value as a whole number. -/
def truthNumber (b : Bool) : Int :=
  if b then 1 else 0

/-- What stands for a truth value: the value itself, one and zero, and a few words in letters of
either case. -/
inductive GivesTruth : Value → Bool → Prop
  /-- A truth value. -/
  | boolean (b : Bool) : GivesTruth (.boolean b) b
  /-- One or zero. -/
  | integer (b : Bool) : GivesTruth (.integer (truthNumber b)) b
  /-- One or zero as a binary64 number; the sign of zero does not matter. -/
  | float {x : Binary64} (b : Bool) (value : x.rational? = some (truthNumber b : ℚ)) :
      GivesTruth (.float x) b
  /-- A word. -/
  | text {s : String} {b : Bool}
      (word : (String.ofList (s.toList.map Char.toLower), b) ∈ truthWords) :
      GivesTruth (.text s) b

/-- Only one and zero are whole numbers for a truth value. -/
lemma truthOfWhole_eq_ok_iff {n : Int} {b : Bool} :
    truthOfWhole n = .ok b ↔ n = truthNumber b := by
  unfold truthOfWhole truthNumber
  constructor
  · intro h
    split_ifs at h with zero one
    · cases h
      simpa using zero
    · cases h
      simpa using one
  · rintro rfl
    cases b <;> rfl

/-- One and zero are held by a machine word. -/
lemma natAbs_truthNumber_lt (b : Bool) : (truthNumber b).natAbs < wordLimit := by
  cases b <;> decide

/-- Each word stands for one truth value. -/
lemma lookup_truthWords_eq_some_iff {word : String} {b : Bool} :
    truthWords.lookup word = some b ↔ (word, b) ∈ truthWords := by
  constructor
  · intro h
    obtain ⟨before, after, split, -⟩ := List.lookup_eq_some_iff.mp h
    rw [split]
    simp
  · intro h
    have each : ∀ entry ∈ truthWords, truthWords.lookup entry.1 = some entry.2 := by decide
    exact each _ h

/-- **The coercion of truth values.** -/
theorem trailingOf_eq_ok_iff {value : Value} {b : Bool} :
    trailingOf value = .ok b ↔ GivesTruth value b := by
  constructor
  · intro h
    cases value with
    | boolean b =>
        cases h
        exact .boolean b
    | integer n =>
        rw [trailingOf] at h
        split_ifs at h
        · obtain rfl := truthOfWhole_eq_ok_iff.mp h
          exact .integer b
    | float x =>
        rw [trailingOf] at h
        split at h
        next n whole =>
          obtain rfl := truthOfWhole_eq_ok_iff.mp h
          exact .float b (wholeOf_eq_ok_iff.mp whole).1
        next => cases h
    | text s =>
        rw [trailingOf] at h
        split at h
        next word =>
          cases h
          exact .text (lookup_truthWords_eq_some_iff.mp word)
        next => cases h
    | _ => cases h
  · intro h
    cases h with
    | boolean => rfl
    | integer =>
        have small := natAbs_truthNumber_lt b
        rw [trailingOf, if_pos (by omega)]
        exact truthOfWhole_eq_ok_iff.mpr rfl
    | @float x _ value =>
        have whole : wholeOf x = .ok (truthNumber b) :=
          wholeOf_eq_ok_iff.mpr ⟨value, natAbs_truthNumber_lt b⟩
        simp only [trailingOf, whole]
        exact truthOfWhole_eq_ok_iff.mpr rfl
    | text word => simp only [trailingOf, lookup_truthWords_eq_some_iff.mpr word]

/-! ## The log level -/

/-- A text in capital letters, as far as these are letters from A to Z. -/
def capitalized (text : String) : String :=
  String.ofList (text.toList.flatMap capitals)

/-- What stands for a log level: its name, in letters of either case. -/
inductive GivesLevel : Value → LogLevel → Prop
  /-- A name. -/
  | text {s : String} {level : LogLevel} (named : capitalized s = level.name) :
      GivesLevel (.text s) level

/-- A level has one name, and this is the name of no other. -/
lemma ofName?_eq_some_iff {text : String} {level : LogLevel} :
    LogLevel.ofName? text = some level ↔ text = level.name := by
  constructor
  · intro h
    have named := List.find?_some h
    exact (of_decide_eq_true named).symm
  · rintro rfl
    exact LogLevel.ofName?_name level

/-- A name is the name of a level in letters of either case. -/
lemma levelOfName_eq_ok_iff {text : String} {level : LogLevel} :
    levelOfName text = .ok level ↔ capitalized text = level.name := by
  rw [← ofName?_eq_some_iff, levelOfName, capitalized]
  split
  next found =>
    rw [found]
    simp
  next nothing =>
    rw [nothing]
    simp

/-- **The coercion of log levels.** -/
theorem levelOf_eq_ok_iff {value : Value} {level : LogLevel} :
    levelOf value = .ok level ↔ GivesLevel value level := by
  constructor
  · intro h
    cases value with
    | text s => exact .text (levelOfName_eq_ok_iff.mp h)
    | _ => cases h
  · rintro ⟨named⟩
    exact levelOfName_eq_ok_iff.mpr named

/-! ## What acts as a table -/

/-- What stands for an entry of a table: its key and its value in an array; two characters; and the
two keys of a table, whatever their values are. -/
inductive GivesEntry : Value → String × Value → Prop
  /-- A key with its value. -/
  | array (key : String) (value : Value) : GivesEntry (.array [.text key, value]) (key, value)
  /-- Two characters. -/
  | text {s : String} {first second : Char} (both : s.toList = [first, second]) :
      GivesEntry (.text s) (String.singleton first, .text (String.singleton second))
  /-- Two keys. -/
  | table (first second : String × Value) :
      GivesEntry (.table [first, second]) (first.1, .text second.1)

/-- Entries written one after another into others. -/
def putAll (entries given : Table) : Table :=
  given.foldl (fun entries entry => Table.put entries entry.1 entry.2) entries

/-- What acts as a table: the table itself, an array of what stands for its entries, and a text
without characters. -/
inductive ActsAs : Value → Table → Prop
  /-- A table. -/
  | table (entries : Table) : ActsAs (.table entries) entries
  /-- An array; of entries with one key, the last one counts. -/
  | array {items : List Value} {given : Table} (each : List.Forall₂ GivesEntry items given) :
      ActsAs (.array items) (putAll [] given)
  /-- An empty text. -/
  | text : ActsAs (.text "") []

/-- The two parts that stand for an entry. -/
def parts (entry : String × Value) : Value × Value :=
  (.text entry.1, entry.2)

/-- The two parts of a value, where the first is a text, are what it stands for. -/
lemma pairOf_eq_ok_iff {item : Value} {entry : String × Value} :
    pairOf item = .ok (parts entry) ↔ GivesEntry item entry := by
  constructor
  · intro h
    unfold pairOf at h
    split at h
    next s =>
      split at h
      next first second both =>
        obtain ⟨key, value⟩ := entry
        cases h
        exact .text both
      next => cases h
    next name value =>
      split_ifs at h
      obtain ⟨key, value⟩ := entry
      cases h
      exact .array key value
    next => cases h
    next first _ second _ =>
      obtain ⟨key, value⟩ := entry
      cases h
      exact .table (key, _) (_, _)
    next => cases h
    next => cases h
  · intro h
    cases h with
    | array => rfl
    | text both => simp only [pairOf, both, parts]
    | table => rfl

/-- A list is read item by item. -/
lemma mapM_pairOf_eq_ok_iff {items : List Value} {pairs : List (Value × Value)} :
    items.mapM pairOf = .ok pairs ↔
      List.Forall₂ (fun item pair => pairOf item = .ok pair) items pairs := by
  induction items generalizing pairs with
  | nil =>
      rw [List.mapM_nil, List.forall₂_nil_left_iff]
      exact ⟨fun h => (Except.ok.inj h).symm, fun h => h ▸ rfl⟩
  | cons item items ih =>
      have opened : (item :: items).mapM pairOf =
          (pairOf item).bind fun pair =>
            (items.mapM pairOf).bind fun more => .ok (pair :: more) := List.mapM_cons
      rw [opened, bind_eq_ok_iff, List.forall₂_cons_left_iff]
      simp only [bind_eq_ok_iff, ih]
      constructor
      · rintro ⟨pair, first, more, rest, ⟨⟩⟩
        exact ⟨pair, more, first, rest, rfl⟩
      · rintro ⟨pair, more, first, rest, rfl⟩
        exact ⟨pair, first, more, rest, rfl⟩

/-- Pairs make up a table if each of them has a text in front. -/
lemma foldlM_eq_ok_iff {pairs : List (Value × Value)} {start entries : Table} :
    pairs.foldlM (fun entries pair =>
      match pair.1 with
      | .text name => Except.ok (Table.put entries name pair.2)
      | _ => Except.error Misfit.type) start = .ok entries ↔
      ∃ given : Table, pairs = given.map parts ∧ entries = putAll start given := by
  induction pairs generalizing start with
  | nil =>
      rw [List.foldlM_nil]
      constructor
      · rintro ⟨⟩
        exact ⟨[], rfl, rfl⟩
      · rintro ⟨given, none, rfl⟩
        obtain rfl := List.map_eq_nil_iff.mp none.symm
        rfl
  | cons pair pairs ih =>
      rw [List.foldlM_cons]
      constructor
      · intro h
        obtain ⟨front, value⟩ := pair
        cases front with
        | text name =>
            obtain ⟨given, rfl, rfl⟩ := ih.mp h
            exact ⟨(name, value) :: given, rfl, rfl⟩
        | _ => cases h
      · rintro ⟨given, split, rfl⟩
        obtain ⟨entry, given, rfl, rfl, rfl⟩ := List.map_eq_cons_iff.mp split.symm
        exact ih.mpr ⟨given, rfl, rfl⟩

/-- **What acts as a table.** -/
theorem asTable_eq_ok_iff {value : Value} {entries : Table} :
    asTable value = .ok entries ↔ ActsAs value entries := by
  constructor
  · intro h
    cases value with
    | table given =>
        cases h
        exact .table entries
    | array items =>
        rw [asTable, bind_eq_ok_iff] at h
        obtain ⟨pairs, read, made⟩ := h
        obtain ⟨given, rfl, rfl⟩ := foldlM_eq_ok_iff.mp made
        have each := mapM_pairOf_eq_ok_iff.mp read
        rw [List.forall₂_map_right_iff] at each
        exact .array (each.imp fun _ _ => pairOf_eq_ok_iff.mp)
    | text s =>
        rw [asTable] at h
        split_ifs at h with empty
        cases h
        obtain rfl := String.isEmpty_iff.mp empty
        exact .text
    | _ => cases h
  · intro h
    cases h with
    | table => rfl
    | text => rfl
    | @array items given each =>
        have read : items.mapM pairOf = .ok (given.map parts) := by
          rw [mapM_pairOf_eq_ok_iff, List.forall₂_map_right_iff]
          exact each.imp fun _ _ => pairOf_eq_ok_iff.mpr
        rw [asTable, read]
        exact foldlM_eq_ok_iff.mpr ⟨given, rfl, rfl⟩

end Settings

end Calculator
