import Mathlib.Data.List.TakeWhile
import Mathlib.Tactic.Common
import Calculator.Release

/-!
# The version is the first declaration

The manifest of the project declares the version on a line of its own, or on several. What a
declaration is and where one stands is said here without a matcher: `Declares` for the beginning of a
text, `DeclaredAt` for a position in it, and `IsFirst` for the first of all.

* What the matcher finds at the beginning of a text is what is declared there, and nothing else
  (`declaration?_eq_some_iff`). The parts of a declaration end where they have to: none of the blanks
  is a sign or a mark, and no mark is part of the value.
* The search goes from character to character and forgets what it has passed, except whether a line
  begins (`declaredAt_succ_iff`). So it finds the first declaration if there is one
  (`firstDeclaration?_eq_some_iff`, `firstDeclaration?_eq_none_iff`), whatever it has begun to match
  before.

`version_first` puts this together.
-/

namespace Calculator.Release

/-! ## Declarations -/

/-- A text begins with the declaration of a value: the word, an equals sign with blanks on either side,
and the value between two quotation marks, which need not be of one kind. -/
inductive Declares : List Char → List Char → Prop
  /-- The value is not empty and has no quotation mark of either kind. -/
  | declaration {gap gap' value more : List Char} {opening closing : Char}
      (blank : ∀ c ∈ gap, Text.isBlank c = true) (blank' : ∀ c ∈ gap', Text.isBlank c = true)
      (opens : isMark opening = true) (some : value ≠ []) (plain : ∀ c ∈ value, isMark c = false)
      (closes : isMark closing = true) :
      Declares ("version".toList ++ (gap ++ '=' :: (gap' ++ opening :: (value ++ closing :: more))))
        value

/-- A quotation mark is not blank. -/
lemma isBlank_of_isMark {c : Char} (h : isMark c = true) : Text.isBlank c = false := by
  rw [isMark, Bool.or_eq_true, decide_eq_true_eq, decide_eq_true_eq] at h
  rcases h with rfl | rfl
  · decide
  · decide

/-- What follows a beginning of a text. -/
lemma after?_eq_some_iff {start text rest : List Char} :
    after? start text = some rest ↔ text = start ++ rest := by
  unfold after?
  constructor
  · intro h
    split at h
    · rename_i hprefix
      obtain ⟨rest', rfl⟩ := List.isPrefixOf_iff_prefix.mp hprefix
      rw [List.drop_left] at h
      rw [Option.some.inj h]
    · cases h
  · rintro rfl
    rw [if_pos (List.isPrefixOf_iff_prefix.mpr (List.prefix_append _ _)), List.drop_left]

/-- A run of characters of a class stops at one that is not in it. -/
lemma takeWhile_and_dropWhile_iff {p : Char → Bool} {text front rest : List Char} {c : Char} :
    text.takeWhile p = front ∧ text.dropWhile p = c :: rest ↔
      text = front ++ c :: rest ∧ (∀ d ∈ front, p d = true) ∧ p c = false := by
  constructor
  · rintro ⟨rfl, hdrop⟩
    have whole := List.takeWhile_append_dropWhile (p := p) (l := text)
    have stop := List.head?_dropWhile_not p text
    rw [hdrop] at whole stop
    exact ⟨whole.symm, fun d hd => List.mem_takeWhile_imp hd, by simpa using stop⟩
  · rintro ⟨rfl, hfront, hc⟩
    have other : ¬ p c = true := by rw [hc]; decide
    rw [List.takeWhile_append_of_pos hfront, List.dropWhile_append_of_pos hfront,
      List.takeWhile_cons_of_neg other, List.dropWhile_cons_of_neg other, List.append_nil]
    exact ⟨rfl, rfl⟩

/-- **The matcher finds what is declared**, and nothing else. -/
lemma declaration?_eq_some_iff {text value : List Char} :
    declaration? text = some value ↔ Declares text value := by
  constructor
  · intro h
    unfold declaration? at h
    obtain ⟨afterWord, hword, h⟩ := Option.bind_eq_some_iff.mp h
    obtain ⟨afterSign, hsign, h⟩ := Option.bind_eq_some_iff.mp h
    rw [after?_eq_some_iff] at hword hsign
    simp only at h
    split at h
    · cases h
    · rename_i opening rest hopening
      split at h
      · rename_i complete
        obtain rfl := Option.some.inj h
        rw [Bool.and_eq_true, Bool.and_eq_true, Bool.not_eq_true', Bool.not_eq_true',
          List.isEmpty_eq_false_iff, List.isEmpty_eq_false_iff] at complete
        obtain ⟨⟨opens, some⟩, stops⟩ := complete
        obtain ⟨closing, more, hclosing⟩ := List.exists_cons_of_ne_nil stops
        -- the three runs end at the sign and at the two marks
        obtain ⟨hgap, blank, -⟩ := takeWhile_and_dropWhile_iff.mp ⟨rfl, hsign⟩
        obtain ⟨hgap', blank', -⟩ := takeWhile_and_dropWhile_iff.mp ⟨rfl, hopening⟩
        obtain ⟨hvalue, plain, closes⟩ := takeWhile_and_dropWhile_iff.mp ⟨rfl, hclosing⟩
        rw [hgap, hgap', hvalue] at hword
        rw [hword]
        refine .declaration blank blank' opens some (fun c hc => ?_) (by simpa using closes)
        simpa using plain c hc
      · cases h
  · intro h
    obtain @⟨gap, gap', _, more, opening, closing, blank, blank', opens, some, plain, closes⟩ := h
    have hword : after? "version".toList ("version".toList ++
        (gap ++ '=' :: (gap' ++ opening :: (value ++ closing :: more)))) =
          Option.some (gap ++ '=' :: (gap' ++ opening :: (value ++ closing :: more))) :=
      after?_eq_some_iff.mpr rfl
    have hsign : after? ['='] ('=' :: (gap' ++ opening :: (value ++ closing :: more))) =
        Option.some (gap' ++ opening :: (value ++ closing :: more)) :=
      after?_eq_some_iff.mpr rfl
    have toSign := (takeWhile_and_dropWhile_iff.mpr
      ⟨@rfl _ (gap ++ '=' :: (gap' ++ opening :: (value ++ closing :: more))), blank, by decide⟩).2
    have toOpening := (takeWhile_and_dropWhile_iff.mpr
      ⟨@rfl _ (gap' ++ opening :: (value ++ closing :: more)), blank', isBlank_of_isMark opens⟩).2
    have plain' : ∀ c ∈ value, (!isMark c) = true := fun c hc => by rw [plain c hc, Bool.not_false]
    obtain ⟨taken, toClosing⟩ := takeWhile_and_dropWhile_iff.mpr
      ⟨@rfl _ (value ++ closing :: more), plain', by rw [closes, Bool.not_true]⟩
    unfold declaration?
    simp only [hword, Option.bind_eq_bind, Option.bind_some, toSign, hsign, toOpening, taken,
      toClosing]
    simp [opens, some]

/-! ## The first of them -/

/-- A position of a text begins a line: the one behind a line feed. Whether the first position does is
given. -/
def LineStart (atStart : Bool) (text : List Char) : Nat → Prop
  | 0 => atStart = true
  | i + 1 => text[i]? = some '\n'

/-- A value is declared at a position of a text: a line starts there, and the text continues with a
declaration of the value. -/
def DeclaredAt (atStart : Bool) (text : List Char) (i : Nat) (value : List Char) : Prop :=
  LineStart atStart text i ∧ Declares (text.drop i) value

/-- A value is declared at a position, and none before it. -/
structure IsFirst (atStart : Bool) (text : List Char) (i : Nat) (value : List Char) : Prop where
  /-- It is declared there. -/
  declared : DeclaredAt atStart text i value
  /-- Nothing is declared before. -/
  first : ∀ j < i, ∀ other, ¬ DeclaredAt atStart text j other

section Search

variable {atStart : Bool} {text rest value other : List Char} {i j : Nat} {c : Char}

/-- A text declares one value only at its beginning. -/
lemma Declares.unique (h : Declares text value) (h' : Declares text other) : value = other := by
  rw [← declaration?_eq_some_iff] at h h'
  exact Option.some.inj (h.symm.trans h')

/-- One value only is the first that is declared. -/
lemma IsFirst.unique (h : IsFirst atStart text i value) (h' : IsFirst atStart text j other) :
    value = other := by
  rcases Nat.lt_trichotomy i j with before | rfl | behind
  · exact absurd h.declared (h'.first i before value)
  · exact h.declared.2.unique h'.declared.2
  · exact absurd h'.declared (h.first j behind other)

/-- Behind its first character, a text declares what the rest declares, where a line begins if the
character is a line feed. -/
lemma declaredAt_succ_iff :
    DeclaredAt atStart (c :: rest) (i + 1) value ↔ DeclaredAt (c = '\n') rest i value := by
  unfold DeclaredAt
  rw [List.drop_succ_cons]
  refine and_congr_left fun _ => ?_
  cases i with
  | zero => simp [LineStart]
  | succ i => simp [LineStart]

/-- An empty text declares nothing. -/
lemma not_declaredAt_nil : ¬ DeclaredAt atStart [] i value := by
  rintro ⟨-, declares⟩
  rw [List.drop_nil] at declares
  generalize hnil : ([] : List Char) = empty at declares
  cases declares
  simp at hnil

/-- At its beginning, a text declares what the search looks for first. -/
lemma declaredAt_zero_iff :
    DeclaredAt atStart text 0 value ↔
      (if atStart then declaration? text else none) = some value := by
  rw [DeclaredAt, LineStart, List.drop_zero, ← declaration?_eq_some_iff]
  cases atStart with
  | false => simp
  | true => simp

/-- **The search finds nothing only if nothing is declared.** -/
lemma firstDeclaration?_eq_none_iff :
    firstDeclaration? atStart text = none ↔ ∀ i value, ¬ DeclaredAt atStart text i value := by
  induction text generalizing atStart with
  | nil => exact ⟨fun _ _ _ => not_declaredAt_nil, fun _ => rfl⟩
  | cons c rest ih =>
      unfold firstDeclaration?
      split
      · rename_i value here
        refine ⟨fun h => (by cases h), fun none => ?_⟩
        exact absurd (declaredAt_zero_iff.mpr here) (none 0 value)
      · rename_i here
        rw [ih]
        constructor
        · intro none i value
          cases i with
          | zero =>
              rw [declaredAt_zero_iff, here]
              exact (Option.some_ne_none value).symm
          | succ i =>
              rw [declaredAt_succ_iff]
              exact none i value
        · intro none i value
          rw [← declaredAt_succ_iff]
          exact none (i + 1) value

/-- What the search finds is the first declaration. -/
lemma exists_isFirst_of_firstDeclaration? (h : firstDeclaration? atStart text = some value) :
    ∃ i, IsFirst atStart text i value := by
  induction text generalizing atStart with
  | nil => cases h
  | cons c rest ih =>
      unfold firstDeclaration? at h
      split at h
      · rename_i found here
        obtain rfl := Option.some.inj h
        exact ⟨0, declaredAt_zero_iff.mpr here, fun j before => absurd before (Nat.not_lt_zero j)⟩
      · rename_i here
        obtain ⟨i, later⟩ := ih h
        refine ⟨i + 1, declaredAt_succ_iff.mpr later.declared, ?_⟩
        intro j before other
        cases j with
        | zero =>
            rw [declaredAt_zero_iff, here]
            exact (Option.some_ne_none other).symm
        | succ j =>
            rw [declaredAt_succ_iff]
            exact later.first j (Nat.lt_of_succ_lt_succ before) other

/-- **The search finds the first declaration.** -/
lemma firstDeclaration?_eq_some_iff :
    firstDeclaration? atStart text = some value ↔ ∃ i, IsFirst atStart text i value := by
  refine ⟨exists_isFirst_of_firstDeclaration?, ?_⟩
  rintro ⟨i, first⟩
  cases hfound : firstDeclaration? atStart text with
  | none => exact absurd first.declared (firstDeclaration?_eq_none_iff.mp hfound i value)
  | some found =>
      obtain ⟨j, first'⟩ := exists_isFirst_of_firstDeclaration? hfound
      rw [first'.unique first]

end Search

/-! ## The version -/

/-- **Without an installation the version is the first one that the manifest declares**: it is a text
just if this is the value of a declaration at the first line start at which there is one, or if there
is none and the text is `0.0.0`. So a value that is declared somewhere is not hidden by what only begins
like a declaration: the version is the value that is declared there, or at a line start before. -/
theorem version_first (manifest value : String) :
    (version none (some manifest) = value ↔
      (∃ i, IsFirst true (Text.unifyLineEnds manifest.toList) i value.toList) ∨
        (∀ i other, ¬ DeclaredAt true (Text.unifyLineEnds manifest.toList) i other) ∧
          value = "0.0.0") ∧
      ∀ i other, DeclaredAt true (Text.unifyLineEnds manifest.toList) i other →
        ∃ j ≤ i, ∃ first, IsFirst true (Text.unifyLineEnds manifest.toList) j first ∧
          version none (some manifest) = String.ofList first := by
  generalize htext : Text.unifyLineEnds manifest.toList = text
  have answer : version none (some manifest) =
      (firstDeclaration? true text).elim "0.0.0" String.ofList := by
    rw [version, Option.bind_some, htext]
    cases firstDeclaration? true text with
    | none => rfl
    | some found => rfl
  rw [answer]
  cases hfound : firstDeclaration? true text with
  | none =>
      rw [Option.elim_none]
      have nowhere := firstDeclaration?_eq_none_iff.mp hfound
      refine ⟨⟨fun h => Or.inr ⟨nowhere, h.symm⟩, ?_⟩, ?_⟩
      · rintro (⟨i, first⟩ | ⟨-, rfl⟩)
        · exact absurd first.declared (nowhere i _)
        · rfl
      · exact fun i other declared => absurd declared (nowhere i other)
  | some found =>
      rw [Option.elim_some]
      obtain ⟨i, first⟩ := exists_isFirst_of_firstDeclaration? hfound
      refine ⟨⟨?_, ?_⟩, ?_⟩
      · rintro rfl
        rw [String.toList_ofList]
        exact Or.inl ⟨i, first⟩
      · rintro (⟨j, first'⟩ | ⟨nowhere, -⟩)
        · rw [first.unique first', String.ofList_toList]
        · exact absurd first.declared (nowhere i found)
      · intro j other declared
        refine ⟨i, ?_, found, first, rfl⟩
        by_contra before
        exact first.first j (Nat.not_le.mp before) other declared

/-- The first line begins like a declaration, and so does the second one: both go on with an empty
value. The third one declares the version, over several lines and between different marks. -/
theorem version_first_severalLines :
    version none (some "version = ''\nversion = ''\r\nversion\n=\r\n '2.0\"") = "2.0" ∧
      ∃ i, IsFirst true (Text.unifyLineEnds
        "version = ''\nversion = ''\r\nversion\n=\r\n '2.0\"".toList) i "2.0".toList := by
  have answer : version none (some "version = ''\nversion = ''\r\nversion\n=\r\n '2.0\"") =
      "2.0" := by decide +kernel
  refine ⟨answer, ?_⟩
  rcases (version_first _ _).1.mp answer with found | ⟨-, unknown⟩
  · exact found
  · exact absurd unknown (by decide)

end Calculator.Release
