/-!
# Log entries

What the calculator does is noted in entries of a severity, under the name of the part that notes
it. A level is a threshold: it lets through the entries whose severity has at least its rank. Levels
have names, two of them a second one, and ranks in steps of ten.
-/

namespace Calculator

/-- How much an entry matters. -/
inductive Severity
  /-- A detail of a computation. -/
  | debug
  /-- The course of the program. -/
  | info
deriving DecidableEq

namespace Severity

/-- The name of a severity. -/
def name : Severity → String
  | debug => "DEBUG"
  | info => "INFO"

/-- The rank of a severity. -/
def rank : Severity → Nat
  | debug => 10
  | info => 20

end Severity

/-- The part of the calculator that notes an entry. -/
inductive Logger
  | tokenizer
  | parser
  | evaluator
  | pipeline
  | commandLine
deriving DecidableEq

/-- The name that an entry is noted under. -/
def Logger.name : Logger → String
  | tokenizer => "reckon.core.expression_lang.tokenizer"
  | parser => "reckon.core.expression_lang.parser"
  | evaluator => "reckon.core.expression_lang.evaluator"
  | pipeline => "reckon.core.pipeline"
  | commandLine => "reckon.cli"

/-- One entry of a log. -/
structure LogEntry where
  /-- Who notes it. -/
  logger : Logger
  /-- How much it matters. -/
  severity : Severity
  /-- What is noted. -/
  text : String
deriving DecidableEq

/-- A threshold for log entries. -/
inductive LogLevel
  | critical
  | fatal
  | error
  | warn
  | warning
  | info
  | debug
  | notset
deriving DecidableEq

namespace LogLevel

/-- All levels. -/
def all : List LogLevel :=
  [critical, fatal, error, warn, warning, info, debug, notset]

/-- The name of a level. -/
def name : LogLevel → String
  | critical => "CRITICAL"
  | fatal => "FATAL"
  | error => "ERROR"
  | warn => "WARN"
  | warning => "WARNING"
  | info => "INFO"
  | debug => "DEBUG"
  | notset => "NOTSET"

/-- The level of a name. -/
def ofName? (name : String) : Option LogLevel :=
  all.find? fun level => level.name = name

/-- A level is found by its name. -/
@[simp] theorem ofName?_name (level : LogLevel) : ofName? level.name = some level := by
  cases level <;> decide

/-- The rank below which entries are held back. -/
def rank : LogLevel → Nat
  | critical | fatal => 50
  | error => 40
  | warn | warning => 30
  | info => 20
  | debug => 10
  | notset => 0

/-- Whether a level lets an entry of some severity through. -/
def admits (level : LogLevel) (severity : Severity) : Bool :=
  level.rank ≤ severity.rank

/-- A higher threshold lets through nothing that a lower one holds back. -/
theorem admits_of_rank_le {low high : LogLevel} {severity : Severity} (h : low.rank ≤ high.rank)
    (admitted : high.admits severity = true) : low.admits severity = true := by
  simp only [admits, decide_eq_true_eq] at admitted ⊢
  omega

end LogLevel

end Calculator
