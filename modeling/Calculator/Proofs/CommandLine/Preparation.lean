import Mathlib.Tactic.Common
import Calculator.CommandLine.Run
import Calculator.Proofs.Settings.Coercion

/-!
# Command lines that are understood

* The options in front of a command are read without it: the name of the command ends them, and all
  that follows is left to the command (`Arguments.read?_append`, `prepare_append`). So options that
  give settings (`Configures`) give them to whatever command stands behind (`run_of_configures`).
* A text behind the end of the options is an expression, whatever it looks like, and any choice of
  options of the command may stand in front (`read?_evalCommand`); a prompt is any text as well
  (`read?_replCommand`).
* From the level for warnings on, no log entry of the program is let through (`LogLevel.IsQuiet`).
-/

namespace Calculator

/-! ## Log levels -/

/-- Whether a level holds back all that is no warning. -/
def LogLevel.IsQuiet (level : LogLevel) : Prop :=
  warning.rank ≤ level.rank

/-- The program notes no warnings, so a quiet level lets nothing through. -/
lemma LogLevel.IsQuiet.admits_eq_false {level : LogLevel} (quiet : level.IsQuiet)
    (severity : Severity) : level.admits severity = false := by
  have below : severity.rank < warning.rank := by cases severity <;> decide
  have held : ¬ level.rank ≤ severity.rank := Nat.not_le.mpr (Nat.lt_of_lt_of_le below quiet)
  simpa [admits] using held

namespace CommandLine

/-! ## Reading options in front of a command -/

/-- **The name of a command ends the options in front of it.** What they give does not depend on the
command, and the command gets all that stands behind them. -/
lemma Arguments.read?_append {Opt : Type} {v : Vocabulary Opt} (ordered : v.interspersed = false)
    {options : List String} {given : List (Given Opt)} (h : read? v options = some ⟨given, []⟩)
    {name : String} (notOption : isOption name = false) (rest : List String) :
    read? v (options ++ name :: rest) = some ⟨given, name :: rest⟩ := by
  have notEnd : name ≠ endOfOptions := by
    rintro rfl
    cases notOption
  fun_induction read? v options generalizing given with
  | case1 =>
      cases h
      simp [read?, notEnd, notOption, ordered]
  | case2 =>
      cases h
      simp
  | case3 => cases h
  | case4 argument tail hargument isOption more hmore ih =>
      obtain ⟨⟨given', operands⟩, htail, hread⟩ := Option.map_eq_some_iff.mp h
      cases hread
      simp [read?, hargument, isOption, hmore, ih htail]
  | case5 => cases h
  | case6 argument hargument isOption more waiting hmore value tail ih =>
      obtain ⟨⟨given', operands⟩, htail, hread⟩ := Option.map_eq_some_iff.mp h
      cases hread
      simp [read?, hargument, isOption, hmore, ih htail]
  | case7 argument tail hargument isOption interspersed =>
      rw [ordered] at interspersed
      cases interspersed
  | case8 => cases h

/-- The options of the program, with the command that stands behind them. -/
lemma General.read?_append {options : List String} {general : General}
    (h : General.read? options = some general) (bare : general.command = []) {name : String}
    (notOption : Arguments.isOption name = false) (rest : List String) :
    General.read? (options ++ name :: rest) = some { general with command := name :: rest } := by
  obtain ⟨⟨given, operands⟩, hread, rfl⟩ := Option.map_eq_some_iff.mp h
  obtain rfl : operands = [] := bare
  simp only [General.read?, Arguments.read?_append rfl hread notOption rest, Option.map_some]
  rfl

/-! ## Settings of a run -/

/-- Options of the program that ask for no version and name no command give these settings to the
command that stands behind them. -/
def Configures (surroundings : Surroundings) (options : List String) (settings : Settings) : Prop :=
  ∃ general, General.read? options = some general ∧ general.version = false ∧
    general.command = [] ∧ general.settings surroundings = .ok settings

variable {surroundings : Surroundings} {options : List String} {settings : Settings}

/-- A name that gives a log level puts it in the settings. -/
lemma withLogLevel_of_gives {name : String} {level : LogLevel}
    (gives : Settings.GivesLevel (.text name) level) :
    withLogLevel settings (some name) = .ok { settings with logLevel := level } := by
  have known : Settings.levelOfName name = .ok level := Settings.levelOf_eq_ok_iff.mpr gives
  simp only [withLogLevel, known]

/-- A name that gives no log level is refused. -/
lemma withLogLevel_of_unknown {name : String}
    (unknown : ∀ level, ¬ Settings.GivesLevel (.text name) level) :
    withLogLevel settings (some name) = .error (.refused .settings) := by
  cases found : Settings.levelOfName name with
  | error rule => simp only [withLogLevel, found]
  | ok level =>
      have gives : Settings.levelOf (.text name) = .ok level := found
      exact absurd (Settings.levelOf_eq_ok_iff.mp gives) (unknown level)

/-- The name of a command is no option. -/
lemma isOption_of_ofText? {text : String} {name : CommandName}
    (h : CommandName.ofText? text = some name) : Arguments.isOption text = false := by
  unfold CommandName.ofText? at h
  split at h
  · rfl
  · rfl
  · cases h

/-- A command behind options that ask for no version is prepared with the settings that they come
to, if there are any. -/
lemma prepare_append {general : General} (hread : General.read? options = some general)
    (noVersion : general.version = false) (bare : general.command = []) {text : String}
    {name : CommandName} (hname : CommandName.ofText? text = some name) {rest : List String}
    {command : Command} (hcommand : Command.read? name rest = some command) :
    prepare surroundings (options ++ text :: rest) =
      (general.settings surroundings).map fun settings => ⟨settings, command⟩ := by
  obtain ⟨version, path, level, _⟩ := general
  obtain rfl : version = false := noVersion
  simp only [prepare, General.read?_append hread bare (isOption_of_ofText? hname) rest, hname,
    Bool.false_eq_true, if_false]
  show _ = (General.settings ⟨false, path, level, text :: rest⟩ surroundings).map _
  cases General.settings ⟨false, path, level, text :: rest⟩ surroundings with
  | error outcome => rfl
  | ok settings => simp only [hcommand, Except.map]

/-- A command behind options that give settings is carried out under these settings. -/
lemma prepare_of_configures (configured : Configures surroundings options settings) {text : String}
    {name : CommandName} (hname : CommandName.ofText? text = some name) {rest : List String}
    {command : Command} (hcommand : Command.read? name rest = some command) :
    prepare surroundings (options ++ text :: rest) = .ok ⟨settings, command⟩ := by
  obtain ⟨general, hread, noVersion, bare, hsettings⟩ := configured
  rw [prepare_append hread noVersion bare hname hcommand, hsettings]
  rfl

/-- **The run of a command behind options that give settings.** -/
lemma run_of_configures (configured : Configures surroundings options settings) {text : String}
    {name : CommandName} (hname : CommandName.ofText? text = some name) {rest : List String}
    {command : Command} (hcommand : Command.read? name rest = some command) (input : String) :
    run surroundings (options ++ text :: rest) input =
      (Job.outcome ⟨settings, command⟩ input).trace settings.logLevel := by
  rw [run, prepare_of_configures configured hname hcommand]

/-- Surroundings without anything in them. -/
def emptySurroundings : Surroundings :=
  ⟨fun _ => none, fun _ => .nothing, "", 0⟩

/-- A log level that is named in front of a command holds in it. -/
lemma configures_logLevel :
    Configures emptySurroundings ["--log-level", "error"]
      { Settings.default with logLevel := .error } :=
  ⟨⟨false, none, some "error", []⟩, rfl, rfl, rfl, rfl⟩

/-! ## The two commands -/

/-- The options of an evaluation as they are given. -/
def EvalOptions.arguments (flags : EvalOptions) : List String :=
  (if flags.showTokens then ["--tokens"] else []) ++ (if flags.showTree then ["--ast"] else []) ++
    (if flags.allowTrailing then ["--allow-trailing"] else [])

/-- The command to evaluate a text. -/
def evalCommand (flags : EvalOptions) (text : String) : List String :=
  "eval" :: (flags.arguments ++ [Arguments.endOfOptions, text])

/-- The command to hold a conversation, with a prompt of its own if one is given. -/
def replCommand (prompt : Option String) : List String :=
  "repl" :: prompt.elim [] fun text => ["--prompt", text]

/-- Behind the end of the options, every text is read as an expression. -/
lemma read?_evalCommand (flags : EvalOptions) (text : String) :
    Command.read? .eval (flags.arguments ++ [Arguments.endOfOptions, text]) =
      some (.eval flags text) := by
  obtain ⟨tokens, tree, trailing⟩ := flags
  cases tokens <;> cases tree <;> cases trailing <;> rfl

/-- Every text is read as a prompt. -/
lemma read?_replCommand (prompt : Option String) :
    Command.read? .repl (prompt.elim [] fun text => ["--prompt", text]) = some (.repl prompt) := by
  cases prompt <;> rfl

/-- The run of an evaluation. -/
lemma run_evalCommand (configured : Configures surroundings options settings) (flags : EvalOptions)
    (text input : String) :
    run surroundings (options ++ evalCommand flags text) input =
      (reply settings flags text).trace settings.logLevel :=
  run_of_configures configured rfl (read?_evalCommand flags text) input

/-- The run of a conversation. -/
lemma run_replCommand (configured : Configures surroundings options settings)
    (prompt : Option String) (input : String) :
    run surroundings (options ++ replCommand prompt) input =
      ((Session.start settings prompt).converse (inputLines input)).trace settings.logLevel :=
  run_of_configures configured rfl (read?_replCommand prompt) input

end CommandLine

end Calculator
