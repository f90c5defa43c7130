import Calculator.CommandLine.Event
import Calculator.Settings

/-!
# What a run of the program comes to

A run writes, and it ends in one of four ways (`Ending`): all went well, an expression has no value,
the command line was refused, or the run stops without an answer. What was written before it stops
stays written (`Outcome`).
-/

namespace Calculator.CommandLine

/-! ## Endings -/

/-- Why a run stops without an answer. -/
inductive Breakdown
  /-- The entry for the settings does not act as a table. -/
  | misfit (reason : Settings.Misfit)
  /-- The settings file has an integer of too many digits. -/
  | longInteger
  /-- The settings file has values too deep inside each other. -/
  | tooDeep
  /-- The settings file is a directory. -/
  | directory
  /-- A value cannot be displayed with so many decimal places. -/
  | tooManyPlaces
deriving DecidableEq

/-- The words for a breakdown. -/
def Breakdown.message : Breakdown → String
  | misfit _ => "The settings are not a table"
  | longInteger => "The settings file has an integer of too many digits"
  | tooDeep => "The settings file has values too deep inside each other"
  | directory => "The settings file is a directory"
  | tooManyPlaces => "The precision is too big"

/-- Why a command line is refused. -/
inductive Refusal
  /-- It does not say what to do, or says it wrongly. -/
  | usage
  /-- There is no settings file where it says. -/
  | noSettingsFile (path : String)
  /-- The settings are not acceptable. -/
  | settings
deriving DecidableEq

/-- The words for a refusal. -/
def Refusal.message : Refusal → String
  | usage => "Usage: reckon [OPTIONS] COMMAND [ARGS]..."
  | noSettingsFile path => "Config file not found: " ++ path
  | settings => "Invalid configuration"

/-- How a run ends. -/
inductive Ending
  /-- All went well. -/
  | success
  /-- The expression has no value. -/
  | failure
  /-- The command line was refused. -/
  | refused (reason : Refusal)
  /-- The run stopped without an answer. -/
  | broken (breakdown : Breakdown)
deriving DecidableEq

/-- The exit status of the program; a run that stops without an answer counts as a failure. -/
def Ending.status : Ending → Nat
  | success => 0
  | failure | broken _ => 1
  | refused _ => 2

/-! ## Outcomes -/

/-- What a run comes to. -/
structure Outcome where
  /-- What is written. -/
  events : List Event
  /-- How the run ends. -/
  ending : Ending

/-- The outcome of a command line that is refused. -/
def Outcome.refused (reason : Refusal) : Outcome :=
  ⟨[], .refused reason⟩

/-- The outcome of a run that stops without an answer before it has written anything. -/
def Outcome.broken (breakdown : Breakdown) : Outcome :=
  ⟨[], .broken breakdown⟩

/-- An outcome with more events in front of it. -/
def Outcome.after (events : List Event) (outcome : Outcome) : Outcome :=
  { outcome with events := events ++ outcome.events }

end Calculator.CommandLine
