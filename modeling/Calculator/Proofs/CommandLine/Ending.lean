import Calculator.Proofs.CommandLine.Evaluation
import Calculator.Proofs.Settings.Fieldwise
import Calculator.Proofs.Toml.Room

/-!
# How an evaluation ends

Whatever is in the settings file and in the environment, and whatever log level is named on the
command line, there is exactly one way in which the evaluation of a text ends, and `Ends` says
which.

* First the settings are decided (`Settled`). A file that is not well formed, an effective value
  that is not acceptable and a log level that does not exist are refused. There are four other
  things that can be in the place of the file, and with these the run stops without an answer: an
  integer of too many digits, values that are too deep inside each other, an entry for the settings
  that does not act as a table, and a directory.
* Then the text is evaluated, and the run is a success or a failure. Here there is one way to stop
  without an answer: there is a value, but more decimal places of it are asked for than it can be
  displayed with.

`eval_ending` says that runs end as `Ends` says. However much room there is for values inside each
other, there is a file of which they take more (`ending_of_openings`).
-/

namespace Calculator.CommandLine

open Settings

/-! ## Settings -/

/-- The entries for the settings, from the file in the default place. -/
inductive Provides (surroundings : Surroundings) : (entries : Document.Table) → Prop
  /-- No file is needed. -/
  | nothing (there : surroundings.find defaultSettingsFile = .nothing) : Provides surroundings []
  /-- A file with a well-formed document. -/
  | file {text : String} {document entries : Document.Table}
      (there : surroundings.find defaultSettingsFile = .file text)
      (parsed : Toml.parse surroundings.room text = .ok document) (has : HasEntries document entries) :
      Provides surroundings entries

/-- Settings with the log level that is named in front of a command, if one is. -/
inductive Levelled (settings : Settings) : (level : Option String) → Settings → Prop
  /-- No level is named. -/
  | kept : Levelled settings none settings
  /-- A name of a level counts instead of the level from the settings. -/
  | named {name : String} {level : LogLevel} (gives : GivesLevel (.text name) level) :
      Levelled settings (some name) { settings with logLevel := level }

/-- **What the settings come to**, with the log level that is named in front of a command: settings,
or how a run without them ends. -/
inductive Settled (surroundings : Surroundings) :
    (level : Option String) → (result : Except Ending Settings) → Prop
  /-- A file that is not well formed is refused. -/
  | malformed {level : Option String} {text : String}
      (there : surroundings.find defaultSettingsFile = .file text)
      (defect : Toml.parse surroundings.room text = .error .malformed) :
      Settled surroundings level (.error (.refused .settings))
  /-- An effective value that is not acceptable is refused. -/
  | unacceptable {level : Option String} {entries : Document.Table}
      (provided : Provides surroundings entries) {field : Field}
      (refused : ¬ field.Accepts (field.effective surroundings.environment entries)) :
      Settled surroundings level (.error (.refused .settings))
  /-- A log level that does not exist is refused. -/
  | unknownLevel {name : String} {entries : Document.Table}
      (provided : Provides surroundings entries)
      (unknown : ∀ level, ¬ GivesLevel (.text name) level) :
      Settled surroundings (some name) (.error (.refused .settings))
  /-- The run stops at an integer of too many digits. -/
  | longInteger {level : Option String} {text : String}
      (there : surroundings.find defaultSettingsFile = .file text)
      (defect : Toml.parse surroundings.room text = .error .longInteger) :
      Settled surroundings level (.error (.broken .longInteger))
  /-- The run stops at values for which there is no room, so deep they are inside each other. -/
  | tooDeep {level : Option String} {text : String}
      (there : surroundings.find defaultSettingsFile = .file text)
      (defect : Toml.parse surroundings.room text = .error .tooDeep) :
      Settled surroundings level (.error (.broken .tooDeep))
  /-- The run stops at an entry for the settings that does not act as a table. -/
  | misfit {level : Option String} {text : String} {document : Document.Table}
      {value : Document.Value} {reason : Misfit}
      (there : surroundings.find defaultSettingsFile = .file text)
      (parsed : Toml.parse surroundings.room text = .ok document)
      (present : Document.Table.get? document "reckon" = some value)
      (fails : asTable value = .error reason) :
      Settled surroundings level (.error (.broken (.misfit reason)))
  /-- The run stops at a directory. -/
  | directory {level : Option String}
      (there : surroundings.find defaultSettingsFile = .directory) :
      Settled surroundings level (.error (.broken .directory))
  /-- Otherwise the effective values give the settings. -/
  | settled {level : Option String} {entries : Document.Table} {settings settings' : Settings}
      (provided : Provides surroundings entries)
      (gives : Gives (fun field => field.effective surroundings.environment entries) settings)
      (levelled : Levelled settings level settings') :
      Settled surroundings level (.ok settings')

variable {surroundings : Surroundings}

/-- What the settings from the default place come to, if there are entries. -/
lemma settingsFrom_of_provides {entries : Document.Table} (h : Provides surroundings entries) :
    settingsFrom surroundings none =
      (ofValues fun field => field.effective surroundings.environment entries).mapError
        fun _ => .refused .settings := by
  have renamed (values : Field → Document.Value) :
      ((ofValues values).mapError Fault.violations).mapError Outcome.ofFault =
        (ofValues values).mapError fun _ => .refused .settings := by
    cases ofValues values <;> rfl
  cases h with
  | nothing there =>
      have missing : HasEntries [] [] := .missing rfl
      simp only [settingsFrom, Option.getD_none, there, load, ofDocument_eq _ missing, renamed]
  | file there parsed has =>
      simp only [settingsFrom, Option.getD_none, there, load, parsed, ofDocument_eq _ has, renamed]

/-- The settings with the level that is named, if one is. -/
lemma withLogLevel_of_levelled {settings settings' : Settings} {level : Option String}
    (h : Levelled settings level settings') : withLogLevel settings level = .ok settings' := by
  cases h with
  | kept => rfl
  | named gives => exact withLogLevel_of_gives gives

/-- The options of the program that name a log level, if one is to be named. -/
def levelArguments (level : Option String) : List String :=
  level.elim [] fun name => ["--log-level", name]

/-- What a command line says that names nothing but a log level, if that. -/
def generalOf (level : Option String) : General :=
  ⟨false, none, level, []⟩

/-- Every text is read as the name of a log level. -/
lemma read?_levelArguments (level : Option String) :
    General.read? (levelArguments level) = some (generalOf level) := by
  cases level <;> rfl

/-- **The settings of a run are what they come to.** -/
lemma settings_of_settled {level : Option String} {result : Except Ending Settings}
    (h : Settled surroundings level result) :
    (generalOf level).settings surroundings = result.mapError fun ending => ⟨[], ending⟩ := by
  unfold General.settings generalOf
  cases h with
  | malformed there defect =>
      simp only [settingsFrom, Option.getD_none, there, load, defect]
      rfl
  | longInteger there defect =>
      simp only [settingsFrom, Option.getD_none, there, load, defect]
      rfl
  | tooDeep there defect =>
      simp only [settingsFrom, Option.getD_none, there, load, defect]
      rfl
  | misfit there parsed present fails =>
      simp only [settingsFrom, Option.getD_none, there, load, parsed, ofDocument, present, fails]
      rfl
  | directory there =>
      simp only [settingsFrom, Option.getD_none, there]
      rfl
  | @unacceptable level entries provided field refused =>
      rw [settingsFrom_of_provides provided,
        ofValues_eq_error fun accepted => refused (accepted field)]
      rfl
  | @unknownLevel name entries provided unknown =>
      rw [settingsFrom_of_provides provided]
      cases ofValues fun field => field.effective surroundings.environment entries with
      | error found => rfl
      | ok settings => exact withLogLevel_of_unknown unknown
  | settled provided gives levelled =>
      rw [settingsFrom_of_provides provided, ofValues_eq_ok_iff.mpr gives]
      exact withLogLevel_of_levelled levelled

/-- There are entries, or it is settled how a run without them ends. -/
lemma provides_or_settled (surroundings : Surroundings) (level : Option String) :
    (∃ entries, Provides surroundings entries) ∨
      ∃ ending, Settled surroundings level (.error ending) := by
  cases there : surroundings.find defaultSettingsFile with
  | nothing => exact Or.inl ⟨[], .nothing there⟩
  | directory => exact Or.inr ⟨_, .directory there⟩
  | file text =>
      cases parsed : Toml.parse surroundings.room text with
      | error defect =>
          cases defect with
          | malformed => exact Or.inr ⟨_, .malformed there parsed⟩
          | longInteger => exact Or.inr ⟨_, .longInteger there parsed⟩
          | tooDeep => exact Or.inr ⟨_, .tooDeep there parsed⟩
      | ok document =>
          cases present : Document.Table.get? document "reckon" with
          | none => exact Or.inl ⟨[], .file there parsed (.missing present)⟩
          | some value =>
              cases acts : asTable value with
              | error reason => exact Or.inr ⟨_, .misfit there parsed present acts⟩
              | ok entries =>
                  have has : HasEntries document entries :=
                    .given present (asTable_eq_ok_iff.mp acts)
                  exact Or.inl ⟨entries, .file there parsed has⟩

/-- A named level is the name of a level, or of none. -/
lemma levelled_or_unknown (settings : Settings) (level : Option String) :
    (∃ settings', Levelled settings level settings') ∨
      ∃ name, level = some name ∧ ∀ known, ¬ GivesLevel (.text name) known := by
  cases level with
  | none => exact Or.inl ⟨settings, .kept⟩
  | some name =>
      by_cases known : ∃ known, GivesLevel (.text name) known
      · obtain ⟨known, gives⟩ := known
        exact Or.inl ⟨_, .named gives⟩
      · exact Or.inr ⟨name, rfl, fun level gives => known ⟨level, gives⟩⟩

/-- **The settings always come to something.** -/
lemma exists_settled (surroundings : Surroundings) (level : Option String) :
    ∃ result, Settled surroundings level result := by
  rcases provides_or_settled surroundings level with ⟨entries, provided⟩ | ⟨ending, settled⟩
  · by_cases accepted :
        ∀ field : Field, field.Accepts (field.effective surroundings.environment entries)
    · obtain ⟨settings, gives⟩ := exists_gives_iff.mpr accepted
      rcases levelled_or_unknown settings level with ⟨settings', levelled⟩ | ⟨name, rfl, unknown⟩
      · exact ⟨_, .settled provided gives levelled⟩
      · exact ⟨_, .unknownLevel provided unknown⟩
    · obtain ⟨field, refused⟩ := not_forall.mp accepted
      exact ⟨_, .unacceptable provided refused⟩
  · exact ⟨_, settled⟩

/-! ## Evaluations -/

/-- **How the evaluation of a text ends**, with the log level that is named in front of it. -/
inductive Ends (surroundings : Surroundings) (level : Option String) (flags : EvalOptions)
    (text : String) : Ending → Prop
  /-- Without settings. -/
  | unsettled {ending : Ending} (h : Settled surroundings level (.error ending)) :
      Ends surroundings level flags text ending
  /-- As a failure if the text has no value. -/
  | failure {settings : Settings} {report : Diagnostic}
      (settled : Settled surroundings level (.ok settings))
      (h : (calculation settings flags text).outcome = .error report) :
      Ends surroundings level flags text .failure
  /-- As a success if its value can be displayed. -/
  | success {settings : Settings} {answer : Answer}
      (settled : Settled surroundings level (.ok settings)) (fits : FitsPlaces settings)
      (h : (calculation settings flags text).outcome = .ok answer) :
      Ends surroundings level flags text .success
  /-- Without an answer if its value cannot be displayed. -/
  | tooManyPlaces {settings : Settings} {answer : Answer}
      (settled : Settled surroundings level (.ok settings)) (tooMany : ¬ FitsPlaces settings)
      (h : (calculation settings flags text).outcome = .ok answer) :
      Ends surroundings level flags text (.broken .tooManyPlaces)

variable {level : Option String} {flags : EvalOptions} {text : String}

/-- A run without settings ends at once. -/
lemma ending_of_error {ending : Ending} (h : Settled surroundings level (.error ending))
    (input : String) :
    (run surroundings (levelArguments level ++ evalCommand flags text) input).ending = ending := by
  have prepared : prepare surroundings (levelArguments level ++ evalCommand flags text) =
      .error ⟨[], ending⟩ := by
    rw [evalCommand, prepare_append (read?_levelArguments level) rfl rfl rfl
      (read?_evalCommand flags text), settings_of_settled h]
    rfl
  rw [run, prepared]
  rfl

/-- **Brackets that are not closed again can fill any room**, and the run stops at them without an
answer; what stands behind them does not matter. -/
theorem ending_of_openings {n : Nat} {behind : String} (deep : surroundings.room < 2 * n)
    (there : surroundings.find defaultSettingsFile =
      .file ("a=" ++ String.ofList (List.replicate n '[') ++ behind)) (input : String) :
    (run surroundings (levelArguments level ++ evalCommand flags text) input).ending =
      .broken .tooDeep :=
  ending_of_error (.tooDeep there (Toml.parse_openings deep behind)) input

/-- A run with settings is an evaluation under these. -/
lemma ending_of_ok {settings : Settings} (h : Settled surroundings level (.ok settings))
    (input : String) :
    (run surroundings (levelArguments level ++ evalCommand flags text) input).ending =
      (reply settings flags text).ending := by
  have configured : Configures surroundings (levelArguments level) settings :=
    ⟨generalOf level, read?_levelArguments level, rfl, rfl, settings_of_settled h⟩
  rw [run_evalCommand configured]
  rfl

/-- A run ends as is settled. -/
lemma ending_of_ends {ending : Ending} (h : Ends surroundings level flags text ending)
    (input : String) :
    (run surroundings (levelArguments level ++ evalCommand flags text) input).ending = ending := by
  cases h with
  | unsettled h => exact ending_of_error h input
  | failure settled h => rw [ending_of_ok settled, reply_of_error h]
  | success settled fits h => rw [ending_of_ok settled, reply_of_ok fits h]
  | tooManyPlaces settled tooMany h => rw [ending_of_ok settled, reply_of_tooManyPlaces tooMany h]

/-- It is always settled how a run ends. -/
lemma exists_ends (surroundings : Surroundings) (level : Option String) (flags : EvalOptions)
    (text : String) : ∃ ending, Ends surroundings level flags text ending := by
  obtain ⟨result, settled⟩ := exists_settled surroundings level
  cases result with
  | error ending => exact ⟨ending, .unsettled settled⟩
  | ok settings =>
      cases h : (calculation settings flags text).outcome with
      | error report => exact ⟨_, .failure settled h⟩
      | ok answer =>
          by_cases fits : FitsPlaces settings
          · exact ⟨_, .success settled fits h⟩
          · exact ⟨_, .tooManyPlaces settled fits h⟩

/-- **Every evaluation ends in exactly one way.** -/
theorem eval_ending (surroundings : Surroundings) (level : Option String) (flags : EvalOptions)
    (text input : String) (ending : Ending) :
    (run surroundings (levelArguments level ++ evalCommand flags text) input).ending = ending ↔
      Ends surroundings level flags text ending := by
  constructor
  · intro h
    obtain ⟨settledEnding, ends⟩ := exists_ends surroundings level flags text
    rw [← h, ending_of_ends ends input]
    exact ends
  · intro ends
    exact ending_of_ends ends input

end Calculator.CommandLine
