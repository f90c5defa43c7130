import Mathlib.Tactic.Common
import Calculator.Proofs.Settings.Coercion

/-!
# Settings are decided one by one

* The four settings are **fields** with a name, a default, and for two of them a variable of the
  environment (`Field`). The **effective value** of a field comes from its variable if that is not
  empty, and otherwise from the table, and otherwise it is the default (`Field.effective`).
* The settings of a table are those that the four effective values give, and the violations of a
  table are one for each value that gives nothing (`ofTable_eq`, `ofDocument_eq`). So a document has
  no other influence than by these values, and neither has the environment (`ofDocument_congr`).
* Settings written down as values give themselves again (`gives_value`); the defaults are a case of
  it.

`ofDocument_fieldwise` puts this together.
-/

namespace Calculator.Settings

open Document

/-! ## Fields -/

/-- A setting, by what it is about. -/
inductive Field
  | prompt
  | precision
  | allowTrailing
  | logLevel
deriving DecidableEq

/-- A setting as a value. -/
def value (settings : Settings) : Field → Value
  | .prompt => .text settings.prompt
  | .precision => settings.precision.elim .null fun places => .integer places
  | .allowTrailing => .boolean settings.allowTrailing
  | .logLevel => .text settings.logLevel.name

namespace Field

/-- All fields, in the order in which they are looked at. -/
def all : List Field := [prompt, precision, allowTrailing, logLevel]

/-- The key of a field. -/
def name : Field → String
  | prompt => "prompt"
  | precision => "precision"
  | allowTrailing => "allow_trailing"
  | logLevel => "log_level"

/-- The variable of the environment that overrides a field. -/
def variableName? : Field → Option String
  | prompt => some "RECKON_PROMPT"
  | logLevel => some "RECKON_LOG_LEVEL"
  | precision | allowTrailing => none

/-- The value of a field from the environment. An empty variable gives none. -/
def override? (environment : String → Option String) (field : Field) : Option String :=
  (field.variableName?.bind environment).filter fun text => !text.isEmpty

/-- The value of a field from a table, or its default. -/
def given (entries : Table) (field : Field) : Value :=
  (Table.get? entries field.name).getD (Settings.default.value field)

/-- **The effective value of a field.** -/
def effective (environment : String → Option String) (entries : Table) (field : Field) : Value :=
  match field.override? environment with
  | some text => .text text
  | none => field.given entries

/-- Whether a value is acceptable for a field. -/
def Accepts (value : Value) : Field → Prop
  | prompt => ∃ text, GivesPrompt value text
  | precision => ∃ places, GivesPrecision value places
  | allowTrailing => ∃ b, GivesTruth value b
  | logLevel => ∃ level, GivesLevel value level

/-- The rule that an answer names. -/
def rule? {α : Type} : Except Rule α → Option Rule
  | .ok _ => none
  | .error rule => some rule

/-- The rule of a field that a value breaks. -/
def brokenRule? (value : Value) : Field → Option Rule
  | prompt => rule? (promptOf value)
  | precision => rule? (precisionOf value)
  | allowTrailing => rule? (trailingOf value)
  | logLevel => rule? (levelOf value)

/-- No rule is named by an answer that has a result. -/
lemma rule?_eq_none_iff {α : Type} {answer : Except Rule α} :
    rule? answer = none ↔ ∃ a, answer = .ok a := by
  cases answer <;> simp [rule?]

/-- **A value breaks no rule exactly if it is acceptable.** -/
lemma brokenRule?_eq_none_iff {value : Value} {field : Field} :
    field.brokenRule? value = none ↔ field.Accepts value := by
  cases field <;>
    simp only [brokenRule?, Accepts, rule?_eq_none_iff, promptOf_eq_ok_iff, precisionOf_eq_ok_iff,
      trailingOf_eq_ok_iff, levelOf_eq_ok_iff]

/-- Fields have different keys. -/
lemma name_injective {first second : Field} (h : first.name = second.name) : first = second := by
  cases first <;> cases second <;> first | rfl | exact absurd h (by decide)

/-- Every field is one of the four. -/
lemma mem_all (field : Field) : field ∈ all := by
  cases field <;> decide

end Field

/-! ## Four values -/

/-- Settings that four values stand for. -/
structure Gives (values : Field → Value) (settings : Settings) : Prop where
  /-- The prompt. -/
  prompt : GivesPrompt (values .prompt) settings.prompt
  /-- The precision. -/
  precision : GivesPrecision (values .precision) settings.precision
  /-- Whether tokens may follow an expression. -/
  allowTrailing : GivesTruth (values .allowTrailing) settings.allowTrailing
  /-- The log level. -/
  logLevel : GivesLevel (values .logLevel) settings.logLevel

/-- **Settings as values stand for themselves.** -/
lemma gives_value (settings : Settings) : Gives settings.value settings where
  prompt := .text settings.prompt
  precision := by
    unfold value
    cases settings.precision with
    | none => exact .null
    | some places => exact .integer places
  allowTrailing := .boolean settings.allowTrailing
  logLevel := by
    refine .text ?_
    cases settings.logLevel <;> decide

/-- There are settings that four values stand for exactly if each of them is acceptable. -/
lemma exists_gives_iff {values : Field → Value} :
    (∃ settings, Gives values settings) ↔ ∀ field : Field, field.Accepts (values field) := by
  constructor
  · rintro ⟨settings, h⟩ (_ | _ | _ | _)
    · exact ⟨_, h.prompt⟩
    · exact ⟨_, h.precision⟩
    · exact ⟨_, h.allowTrailing⟩
    · exact ⟨_, h.logLevel⟩
  · intro h
    obtain ⟨prompt, hprompt⟩ := h .prompt
    obtain ⟨precision, hprecision⟩ := h .precision
    obtain ⟨trailing, htrailing⟩ := h .allowTrailing
    obtain ⟨level, hlevel⟩ := h .logLevel
    exact ⟨⟨prompt, precision, trailing, level⟩, hprompt, hprecision, htrailing, hlevel⟩

/-- The violations of four values: one for each that breaks a rule. -/
def violationsOf (values : Field → Value) : List Violation :=
  Field.all.filterMap fun field =>
    (field.brokenRule? (values field)).map fun rule => ⟨[field.name], rule⟩

/-- The settings that four values stand for, or their violations. -/
def ofValues (values : Field → Value) : Except (List Violation) Settings :=
  match promptOf (values .prompt), precisionOf (values .precision),
    trailingOf (values .allowTrailing), levelOf (values .logLevel) with
  | .ok prompt, .ok precision, .ok trailing, .ok level => .ok ⟨prompt, precision, trailing, level⟩
  | _, _, _, _ => .error (violationsOf values)

variable {values : Field → Value}

/-- **Four values come to the settings that they stand for.** -/
lemma ofValues_eq_ok_iff {settings : Settings} :
    ofValues values = .ok settings ↔ Gives values settings := by
  unfold ofValues
  constructor
  · intro h
    split at h
    next prompt precision trailing level hprompt hprecision htrailing hlevel =>
      cases h
      exact ⟨promptOf_eq_ok_iff.mp hprompt, precisionOf_eq_ok_iff.mp hprecision,
        trailingOf_eq_ok_iff.mp htrailing, levelOf_eq_ok_iff.mp hlevel⟩
    next => cases h
  · intro h
    simp only [promptOf_eq_ok_iff.mpr h.prompt, precisionOf_eq_ok_iff.mpr h.precision,
      trailingOf_eq_ok_iff.mpr h.allowTrailing, levelOf_eq_ok_iff.mpr h.logLevel]

/-- Where four values come to no settings, they come to their violations. -/
lemma ofValues_eq_error (h : ¬ ∀ field : Field, field.Accepts (values field)) :
    ofValues values = .error (violationsOf values) := by
  cases hvalues : ofValues values with
  | ok settings =>
      exact absurd (exists_gives_iff.mp ⟨settings, ofValues_eq_ok_iff.mp hvalues⟩) h
  | error found =>
      unfold ofValues at hvalues
      split at hvalues
      next => cases hvalues
      next => rw [Except.error.inj hvalues]

/-- A violation is one of a field with a value that breaks its rule. -/
lemma mem_violationsOf_iff {violation : Violation} :
    violation ∈ violationsOf values ↔ ∃ field : Field, violation.path = [field.name] ∧
      field.brokenRule? (values field) = some violation.rule := by
  unfold violationsOf
  rw [List.mem_filterMap]
  constructor
  · rintro ⟨field, -, h⟩
    obtain ⟨rule, broken, rfl⟩ := Option.map_eq_some_iff.mp h
    exact ⟨field, rfl, broken⟩
  · rintro ⟨field, path, broken⟩
    refine ⟨field, field.mem_all, ?_⟩
    rw [broken, Option.map_some, ← path]

/-- There is a violation at a field exactly if its value is not acceptable. -/
lemma mem_paths_violationsOf_iff {field : Field} :
    [field.name] ∈ (violationsOf values).map Violation.path ↔ ¬ field.Accepts (values field) := by
  rw [← Field.brokenRule?_eq_none_iff, List.mem_map]
  constructor
  · rintro ⟨violation, mem, path⟩ unbroken
    obtain ⟨other, path', broken⟩ := mem_violationsOf_iff.mp mem
    rw [path, List.singleton_inj] at path'
    obtain rfl := Field.name_injective path'
    rw [unbroken] at broken
    cases broken
  · intro h
    obtain ⟨rule, broken⟩ := Option.ne_none_iff_exists'.mp h
    exact ⟨⟨[field.name], rule⟩, mem_violationsOf_iff.mpr ⟨field, rfl, broken⟩, rfl⟩

/-- Violations come in the order of the fields, and no field has two. -/
lemma paths_violationsOf_sublist :
    ((violationsOf values).map Violation.path).Sublist
      (Field.all.map fun field => [field.name]) := by
  have kept (fields : List Field) :
      ((fields.filterMap fun field => (field.brokenRule? (values field)).map fun rule =>
        (⟨[field.name], rule⟩ : Violation)).map Violation.path).Sublist
          (fields.map fun field => [field.name]) := by
    induction fields with
    | nil => exact List.Sublist.slnil
    | cons field fields ih =>
        cases broken : field.brokenRule? (values field) with
        | none =>
            simp only [List.filterMap_cons, broken, Option.map_none, List.map_cons]
            exact ih.cons _
        | some rule =>
            simp only [List.filterMap_cons, broken, Option.map_some, List.map_cons]
            exact ih.cons_cons _
  exact kept Field.all

/-! ## Tables and documents -/

/-- A setting is decided on its value from the table, or on its default. -/
lemma setting_eq {α : Type} (entries : Table) (field : Field) {coerce : Value → Except Rule α}
    {fallback : α} (h : coerce (Settings.default.value field) = .ok fallback) :
    setting entries field.name coerce fallback =
      (coerce (field.given entries)).mapError fun rule => ⟨[field.name], rule⟩ := by
  rw [setting, Field.given]
  cases Table.get? entries field.name with
  | none =>
      rw [Option.getD_none, h]
      rfl
  | some value => rfl

/-- The violations of a setting that is decided on a value. -/
lemma violation_mapError {α : Type} (answer : Except Rule α) (name : String) :
    violation (answer.mapError fun rule => (⟨[name], rule⟩ : Violation)) =
      ((Field.rule? answer).map fun rule => ⟨[name], rule⟩).toList := by
  cases answer <;> rfl

/-- **The settings of a table are decided on four values.** -/
lemma ofTable_eq (entries : Table) :
    ofTable entries = ofValues fun field => field.given entries := by
  have gives := gives_value Settings.default
  have prompt := setting_eq entries .prompt
    (promptOf_eq_ok_iff.mpr gives.prompt)
  have precision := setting_eq entries .precision
    (precisionOf_eq_ok_iff.mpr gives.precision)
  have trailing := setting_eq entries .allowTrailing
    (trailingOf_eq_ok_iff.mpr gives.allowTrailing)
  have level := setting_eq entries .logLevel
    (levelOf_eq_ok_iff.mpr gives.logLevel)
  simp only [Field.name] at prompt precision trailing level
  have found : violation ((promptOf (Field.prompt.given entries)).mapError
          fun rule => (⟨["prompt"], rule⟩ : Violation)) ++
        violation ((precisionOf (Field.precision.given entries)).mapError
          fun rule => (⟨["precision"], rule⟩ : Violation)) ++
        violation ((trailingOf (Field.allowTrailing.given entries)).mapError
          fun rule => (⟨["allow_trailing"], rule⟩ : Violation)) ++
        violation ((levelOf (Field.logLevel.given entries)).mapError
          fun rule => (⟨["log_level"], rule⟩ : Violation)) =
      violationsOf fun field => field.given entries := by
    simp only [violation_mapError, violationsOf, List.filterMap_eq_flatMap_toList, Field.all,
      List.flatMap_cons, List.flatMap_nil, List.append_nil, List.append_assoc]
    rfl
  unfold ofTable ofValues
  simp only [prompt, precision, trailing, level, found]
  generalize violationsOf (fun field => field.given entries) = violations
  -- each answer is a result or a rule in both forms, and one rule is enough for the violations
  cases promptOf (Field.prompt.given entries) <;>
    cases precisionOf (Field.precision.given entries) <;>
    cases trailingOf (Field.allowTrailing.given entries) <;>
    cases levelOf (Field.logLevel.given entries) <;> rfl

/-- The entries of a document for the settings. -/
inductive HasEntries (document : Table) : (entries : Table) → Prop
  /-- There are none if nothing is said about the settings. -/
  | missing (absent : Table.get? document "reckon" = none) : HasEntries document []
  /-- They are in a table, or in what acts as one. -/
  | given {value : Value} {entries : Table} (present : Table.get? document "reckon" = some value)
      (acts : ActsAs value entries) : HasEntries document entries

/-- Entries with the value of one variable, which is put at a key unless it is empty. -/
def withOverride (entries : Table) (key : String) (outer : Option String) : Table :=
  match outer.filter fun text => !text.isEmpty with
  | some text => Table.put entries key (.text text)
  | none => entries

/-- A variable that is not there changes nothing. -/
lemma withOverride_none (entries : Table) (key : String) :
    withOverride entries key none = entries := rfl

/-- A variable that is there changes something if it is not empty. -/
lemma withOverride_some (entries : Table) (key text : String) :
    withOverride entries key (some text) =
      if text.isEmpty then entries else Table.put entries key (.text text) := by
  rw [withOverride, Option.filter_some]
  cases text.isEmpty <;> rfl

/-- The effective entries are the given ones with the values of two variables. -/
lemma effective_eq (environment : String → Option String) (entries : Table) :
    Settings.effective environment entries =
      withOverride (withOverride entries "log_level" (environment "RECKON_LOG_LEVEL")) "prompt"
        (environment "RECKON_PROMPT") := by
  unfold Settings.effective overrides
  simp only [List.foldl_cons, List.foldl_nil]
  cases environment "RECKON_LOG_LEVEL" <;> cases environment "RECKON_PROMPT" <;>
    simp only [withOverride_none, withOverride_some]

/-- A variable that is not empty gives its value to its key. -/
lemma get?_withOverride_self (entries : Table) (key : String) (outer : Option String) :
    Table.get? (withOverride entries key outer) key =
      match outer.filter fun text => !text.isEmpty with
      | some text => some (.text text)
      | none => Table.get? entries key := by
  unfold withOverride
  cases outer.filter fun text => !text.isEmpty with
  | none => rfl
  | some text => exact Table.get?_put_self entries key (.text text)

/-- It changes nothing at other keys. -/
lemma get?_withOverride_of_ne {key other : String} (h : other ≠ key) (entries : Table)
    (outer : Option String) :
    Table.get? (withOverride entries key outer) other = Table.get? entries other := by
  unfold withOverride
  split
  · exact Table.get?_put_of_ne h
  · rfl

/-- In the effective entries, a field has its value from the environment or from the table. -/
lemma get?_effective (environment : String → Option String) (entries : Table) (field : Field) :
    Table.get? (Settings.effective environment entries) field.name =
      match field.override? environment with
      | some text => some (.text text)
      | none => Table.get? entries field.name := by
  rw [effective_eq]
  cases field with
  | prompt =>
      rw [Field.name, get?_withOverride_self, get?_withOverride_of_ne (by decide)]
      rfl
  | logLevel =>
      rw [Field.name, get?_withOverride_of_ne (by decide), get?_withOverride_self]
      rfl
  | precision =>
      rw [Field.name, get?_withOverride_of_ne (by decide), get?_withOverride_of_ne (by decide)]
      rfl
  | allowTrailing =>
      rw [Field.name, get?_withOverride_of_ne (by decide), get?_withOverride_of_ne (by decide)]
      rfl

/-- **The settings of effective entries are decided on the effective values.** -/
lemma ofTable_effective (environment : String → Option String) (entries : Table) :
    ofTable (Settings.effective environment entries) =
      ofValues fun field => field.effective environment entries := by
  rw [ofTable_eq]
  congr 1
  funext field
  rw [Field.given, get?_effective, Field.effective]
  cases field.override? environment <;> rfl

/-- **The settings of a document are decided on the effective values of its entries.** -/
lemma ofDocument_eq (environment : String → Option String) {document entries : Table}
    (h : HasEntries document entries) :
    ofDocument environment document =
      (ofValues fun field => field.effective environment entries).mapError .violations := by
  rw [← ofTable_effective, ofDocument]
  cases h with
  | missing absent =>
      rw [absent]
      rfl
  | given present acts =>
      rw [present]
      simp only [asTable_eq_ok_iff.mpr acts]
      rfl

/-- Documents and environments with the same effective values come to the same. -/
lemma ofDocument_congr {environment environment' : String → Option String}
    {document document' entries entries' : Table} (h : HasEntries document entries)
    (h' : HasEntries document' entries')
    (same : ∀ field : Field,
      field.effective environment' entries' = field.effective environment entries) :
    ofDocument environment' document' = ofDocument environment document := by
  rw [ofDocument_eq environment h, ofDocument_eq environment' h', funext same]

/-! ## What matters and what does not -/

/-- Settings that are decided one by one on four values. -/
structure DecidedFieldwise (values : Field → Value) (outcome : Except Fault Settings) : Prop where
  /-- The settings are those that the values stand for. -/
  settings : ∀ settings, outcome = .ok settings ↔ Gives values settings
  /-- There are settings exactly if each of the values is acceptable. -/
  succeeds : (∃ settings, outcome = .ok settings) ↔ ∀ field : Field, field.Accepts (values field)
  /-- If one is not, there is one violation for each value that is not, by the key of its field and
  with the rule that it breaks, in the order of the fields. -/
  fails : (¬ ∀ field : Field, field.Accepts (values field)) →
    ∃ found, outcome = .error (.violations found) ∧
      (∀ field : Field, [field.name] ∈ found.map Violation.path ↔ ¬ field.Accepts (values field)) ∧
      (found.map Violation.path).Sublist (Field.all.map fun field => [field.name]) ∧
      ∀ violation ∈ found, ∃ field : Field, violation.path = [field.name] ∧
        field.brokenRule? (values field) = some violation.rule

/-- What does not matter for the settings of a document with some entries. -/
structure IgnoresTheRest (environment : String → Option String) (document entries : Table) :
    Prop where
  /-- A value that the environment overrides, even if it is not acceptable. -/
  hidden : ∀ (field : Field) (text : String) (value : Value),
    field.override? environment = some text →
      ofDocument environment
          (Table.put document "reckon" (.table (Table.put entries field.name value))) =
        ofDocument environment document
  /-- An entry with a key that is no field's. -/
  unknown : ∀ (key : String) (value : Value), (∀ field : Field, key ≠ field.name) →
    ofDocument environment (Table.put document "reckon" (.table (Table.put entries key value))) =
      ofDocument environment document
  /-- All other entries of the document. -/
  elsewhere : ∀ (key : String) (value : Value), key ≠ "reckon" →
    ofDocument environment (Table.put document key value) = ofDocument environment document
  /-- Variables that are empty, and variables that override no field. -/
  outside : ∀ environment' : String → Option String,
    (∀ field : Field, field.override? environment' = field.override? environment) →
      ofDocument environment' document = ofDocument environment document

/-- What holds of all settings. -/
structure IsNormal (settings : Settings) : Prop where
  /-- The name of the log level is the name of a level. -/
  known : LogLevel.ofName? settings.logLevel.name = some settings.logLevel
  /-- It is in capital letters. -/
  capital : ∀ c ∈ settings.logLevel.name.toList, c.isUpper = true
  /-- The precision is no negative number. -/
  precision : ∀ n : Int, settings.value .precision = .integer n → 0 ≤ n
  /-- The settings as values come to the same settings. -/
  again : ofTable (Field.all.map fun field => (field.name, settings.value field)) = .ok settings

/-- Put into the entries of a document, a value is among its entries. -/
lemma hasEntries_put (document entries : Table) :
    HasEntries (Table.put document "reckon" (.table entries)) entries :=
  .given (Table.get?_put_self document "reckon" (.table entries)) (.table entries)

/-- **What does not matter.** -/
lemma ignoresTheRest (environment : String → Option String) {document entries : Table}
    (h : HasEntries document entries) : IgnoresTheRest environment document entries where
  hidden := by
    intro field text value overridden
    refine ofDocument_congr h (hasEntries_put document _) fun other => ?_
    by_cases same : other = field
    · rw [same, Field.effective, Field.effective, overridden]
    · have names : other.name ≠ field.name := fun equal => same (Field.name_injective equal)
      rw [Field.effective, Field.effective, Field.given, Field.given, Table.get?_put_of_ne names]
  unknown := by
    intro key value foreign
    refine ofDocument_congr h (hasEntries_put document _) fun field => ?_
    rw [Field.effective, Field.effective, Field.given, Field.given,
      Table.get?_put_of_ne (foreign field).symm]
  elsewhere := by
    intro key value other
    have same : Table.get? (Table.put document key value) "reckon" = Table.get? document "reckon" :=
      Table.get?_put_of_ne other.symm
    have h' : HasEntries (Table.put document key value) entries := by
      cases h with
      | missing absent => exact .missing (same.trans absent)
      | given present acts => exact .given (same.trans present) acts
    exact ofDocument_congr h h' fun _ => rfl
  outside := by
    intro environment' same
    refine ofDocument_congr h h fun field => ?_
    rw [Field.effective, Field.effective, same]

/-- All settings are in normal form. -/
lemma isNormal (settings : Settings) : IsNormal settings where
  known := LogLevel.ofName?_name settings.logLevel
  capital := by
    apply List.all_eq_true.mp
    cases settings.logLevel <;> decide
  precision := by
    intro n h
    unfold value at h
    cases hprecision : settings.precision with
    | none =>
        rw [hprecision] at h
        cases h
    | some places =>
        rw [hprecision] at h
        cases h
        exact Int.natCast_nonneg places
  again := by
    rw [ofTable_eq, ofValues_eq_ok_iff]
    have own : (fun field : Field => field.given
        (Field.all.map fun field => (field.name, settings.value field))) = settings.value := by
      funext field
      cases field <;> rfl
    rw [own]
    exact gives_value settings

/-- **The settings of a document are decided one by one on their effective values.** Nothing else in
the document or in the environment matters, and settings that were returned are in normal form. -/
theorem ofDocument_fieldwise (environment : String → Option String) {document entries : Table}
    (h : HasEntries document entries) :
    DecidedFieldwise (fun field => field.effective environment entries)
        (ofDocument environment document) ∧
      IgnoresTheRest environment document entries ∧
      ∀ settings, ofDocument environment document = .ok settings → IsNormal settings := by
  refine ⟨?_, ignoresTheRest environment h, fun settings _ => isNormal settings⟩
  rw [ofDocument_eq environment h]
  generalize (fun field : Field => field.effective environment entries) = values
  have decided : ∀ settings,
      (ofValues values).mapError Fault.violations = .ok settings ↔ Gives values settings := by
    intro settings
    rw [← ofValues_eq_ok_iff]
    cases ofValues values <;> simp [Except.mapError]
  exact {
    settings := decided
    succeeds := by simp only [decided, exists_gives_iff]
    fails := by
      intro refused
      refine ⟨violationsOf values, ?_, fun field => mem_paths_violationsOf_iff,
        paths_violationsOf_sublist, fun violation mem => mem_violationsOf_iff.mp mem⟩
      rw [ofValues_eq_error refused]
      rfl }

/-- A table with a log level that is no text, with two more values that are not acceptable, and with
a key that is no field's. -/
def mixedEntries : Table :=
  [("log_level", .integer 3), ("allow_trailing", .text "maybe"), ("colour", .text "red"),
    ("precision", .integer (-1))]

/-- An environment with a log level, in which all else is empty. -/
def debugEnvironment (name : String) : Option String :=
  if name = "RECKON_LOG_LEVEL" then some "debug" else some ""

/-- Where the environment hides that log level, only the other two values are reported. -/
theorem ofDocument_fieldwise_mixed :
    HasEntries [("title", .null), ("reckon", .table mixedEntries)] mixedEntries ∧
      ∃ found, ofDocument debugEnvironment [("title", .null), ("reckon", .table mixedEntries)] =
          .error (.violations found) ∧
        ∀ field : Field, [field.name] ∈ found.map Violation.path ↔
          field = .precision ∨ field = .allowTrailing := by
  have entries : HasEntries [("title", .null), ("reckon", .table mixedEntries)] mixedEntries :=
    .given rfl (.table mixedEntries)
  have rules : ∀ field : Field,
      field.brokenRule? (field.effective debugEnvironment mixedEntries) = none ↔
        ¬ (field = .precision ∨ field = .allowTrailing) := by
    rintro (_ | _ | _ | _) <;> decide
  have refused : ¬ ∀ field : Field,
      field.Accepts (field.effective debugEnvironment mixedEntries) := fun accepted =>
    (rules .precision).mp (Field.brokenRule?_eq_none_iff.mpr (accepted .precision)) (Or.inl rfl)
  obtain ⟨found, outcome, paths, -⟩ :=
    (ofDocument_fieldwise debugEnvironment entries).1.fails refused
  refine ⟨entries, found, outcome, fun field => ?_⟩
  rw [paths, ← Field.brokenRule?_eq_none_iff, rules, not_not]

end Calculator.Settings
