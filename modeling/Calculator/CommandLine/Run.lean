import Calculator.CommandLine.Session
import Calculator.Release

/-!
# Runs of the program

A run goes from a command line to a job (`prepare`) and from the job to what it writes
(`Job.outcome`). There are several ways to fail before there is a job, and the first one of these
counts:

1. the options of the program are not given as they have to be;
2. no version is asked for, and there is no command of the given name;
3. the settings cannot be loaded, or the name of the log level is none;
4. the arguments of the command are not as they have to be.

The program ends with one of three statuses: the job succeeded, the expression had no value, or the
command line was refused. A run that stops without an answer has the status of one without a value.
-/

namespace Calculator.CommandLine

/-! ## Surroundings -/

/-- What a path leads to. -/
inductive Found
  /-- Nothing. -/
  | nothing
  /-- A directory. -/
  | directory
  /-- A file with a text. -/
  | file (text : String)

/-- What a run can see of the world, besides its command line and its input. -/
structure Surroundings where
  /-- The values of the environment. -/
  environment : String → Option String
  /-- What a path leads to. -/
  find : String → Found
  /-- The name of the platform that the program runs on. -/
  platform : String
  /-- How many calls inside each other there is room for where a value of the settings file is read. -/
  room : Nat

/-- Where the settings are if nothing else is said. -/
def defaultSettingsFile : String := "reckon.toml"

/-! ## Preparation -/

/-- What the version is shown with. -/
def versionOutcome (surroundings : Surroundings) : Outcome :=
  ⟨[.output ("reckon " ++ Release.current ++ "\n" ++ surroundings.platform ++ "\n")], .success⟩

/-- The outcome for settings that cannot be loaded. -/
def Outcome.ofFault : Settings.Fault → Outcome
  | .file .malformed | .violations _ => .refused .settings
  | .file .longInteger => .broken .longInteger
  | .file .tooDeep => .broken .tooDeep
  | .misfit reason => .broken (.misfit reason)

/-- The path of the settings file of a command line. -/
def settingsPath (arguments : List String) : String :=
  ((General.read? arguments).bind (·.settingsFile)).getD defaultSettingsFile

/-- The settings from where the command line says, or from the default place, where there need not
be any. -/
def settingsFrom (surroundings : Surroundings) (path : Option String) : Except Outcome Settings :=
  match path, surroundings.find (path.getD defaultSettingsFile) with
  | some path, .nothing => .error (.refused (.noSettingsFile path))
  | none, .nothing =>
      (Settings.load surroundings.room surroundings.environment none).mapError Outcome.ofFault
  | _, .directory => .error (.broken .directory)
  | _, .file text =>
      (Settings.load surroundings.room surroundings.environment (some text)).mapError Outcome.ofFault

/-- Settings with the log level of a name. -/
def withLogLevel (settings : Settings) : Option String → Except Outcome Settings
  | none => .ok settings
  | some name =>
      match Settings.levelOfName name with
      | .ok level => .ok { settings with logLevel := level }
      | .error _ => .error (.refused .settings)

/-- The settings that hold in a run. -/
def General.settings (general : General) (surroundings : Surroundings) : Except Outcome Settings :=
  (settingsFrom surroundings general.settingsFile).bind fun settings =>
    withLogLevel settings general.logLevel

/-- A command with the settings that it is carried out under. -/
structure Job where
  /-- The settings. -/
  settings : Settings
  /-- The command. -/
  command : Command

/-- The outcome of a command line that names no command. Behind the end of the options there can be
an option in the place of the name, and the one for the version is understood there. -/
def unknownCommand (surroundings : Surroundings) (arguments : List String) : Outcome :=
  match General.read? arguments with
  | some general => if general.version then versionOutcome surroundings else .refused .usage
  | none => .refused .usage

/-- The job of a command line, or the outcome without one. -/
def prepare (surroundings : Surroundings) (arguments : List String) : Except Outcome Job :=
  match General.read? arguments with
  | none => .error (.refused .usage)
  | some general =>
      if general.version then .error (versionOutcome surroundings)
      else
        match general.command with
        | [] => .error (.refused .usage)
        | name :: rest =>
            match CommandName.ofText? name with
            | none => .error (unknownCommand surroundings (name :: rest))
            | some name =>
                match general.settings surroundings with
                | .error outcome => .error outcome
                | .ok settings =>
                    match Command.read? name rest with
                    | none => .error (.refused .usage)
                    | some command => .ok ⟨settings, command⟩

/-- Of all paths, only the one of the settings file counts. -/
theorem prepare_congr {first second : Surroundings} {arguments : List String}
    (environment : first.environment = second.environment)
    (platform : first.platform = second.platform) (room : first.room = second.room)
    (find : first.find (settingsPath arguments) = second.find (settingsPath arguments)) :
    prepare first arguments = prepare second arguments := by
  cases h : General.read? arguments with
  | none => simp [prepare, h]
  | some general =>
      have same : first.find (general.settingsFile.getD defaultSettingsFile) =
          second.find (general.settingsFile.getD defaultSettingsFile) := by
        simpa [settingsPath, h] using find
      simp [prepare, h, versionOutcome, unknownCommand, General.settings, settingsFrom, environment,
        platform, room, same]

/-! ## Execution -/

/-- The outcome of a job with some input. -/
def Job.outcome (job : Job) (input : String) : Outcome :=
  match job.command with
  | .eval options expression => reply job.settings options expression
  | .repl prompt => (Session.start job.settings prompt).converse (inputLines input)

/-- What a run leaves behind. -/
structure Trace where
  /-- The output. -/
  output : String
  /-- The error output. -/
  errors : String
  /-- How the run ended. -/
  ending : Ending

/-- What an outcome leaves behind at some log level. -/
def Outcome.trace (outcome : Outcome) (level : LogLevel) : Trace :=
  ⟨outputOf outcome.events, errorsOf level outcome.events, outcome.ending⟩

/-- Run the program on a command line and some input. -/
def run (surroundings : Surroundings) (arguments : List String) (input : String) : Trace :=
  match prepare surroundings arguments with
  | .error outcome => outcome.trace Settings.default.logLevel
  | .ok job => (job.outcome input).trace job.settings.logLevel

end Calculator.CommandLine
