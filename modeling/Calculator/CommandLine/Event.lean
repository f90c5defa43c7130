import Calculator.Log

/-!
# What a run of the program writes

A run writes texts to its output and to its error output, and it notes log entries, all in one
order. Log entries go to the error output as well, each on a line with its severity and the name of
the part that noted it, as far as the log level lets them through (`errorsOf`). The events do not
depend on the level.
-/

namespace Calculator

/-- A log entry as it is written. -/
def LogEntry.line (entry : LogEntry) : String :=
  "[" ++ entry.severity.name ++ "] " ++ entry.logger.name ++ ": " ++ entry.text ++ "\n"

namespace CommandLine

/-- One thing that a run of the program writes. -/
inductive Event
  /-- A text for the output. -/
  | output (text : String)
  /-- A text for the error output. -/
  | error (text : String)
  /-- An entry for the log. -/
  | log (entry : LogEntry)
deriving DecidableEq

/-- The part of an event that goes to the output. -/
def Event.outputPart : Event → String
  | output text => text
  | error _ | log _ => ""

/-- The part of an event that goes to the error output at some log level. -/
def Event.errorPart (level : LogLevel) : Event → String
  | output _ => ""
  | error text => text
  | log entry => if level.admits entry.severity then entry.line else ""

/-- The output of a run. -/
def outputOf (events : List Event) : String :=
  String.join (events.map Event.outputPart)

/-- The error output of a run. -/
def errorsOf (level : LogLevel) (events : List Event) : String :=
  String.join (events.map (Event.errorPart level))

/-- The output of one part of a run comes before the output of the next one. -/
@[simp] theorem outputOf_append (first second : List Event) :
    outputOf (first ++ second) = outputOf first ++ outputOf second := by
  simp [outputOf]

/-- The error output of one part of a run comes before the error output of the next one. -/
@[simp] theorem errorsOf_append (level : LogLevel) (first second : List Event) :
    errorsOf level (first ++ second) = errorsOf level first ++ errorsOf level second := by
  simp [errorsOf]

/-- Nothing is written on the output in an empty run. -/
@[simp] theorem outputOf_nil : outputOf [] = "" := by simp [outputOf]

/-- Nothing is written on the error output in an empty run. -/
@[simp] theorem errorsOf_nil (level : LogLevel) : errorsOf level [] = "" := by simp [errorsOf]

end CommandLine

end Calculator
