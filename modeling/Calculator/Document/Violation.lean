import Calculator.Document.Value

/-!
# Violations

A document that does not have the required shape is answered with all of its violations. A violation
is the rule that was broken and the path to the value that breaks it.
-/

namespace Calculator.Document

/-- A rule that a value can break. -/
inductive Rule
  /-- The field has to be there. -/
  | present
  /-- The value has to be a text. -/
  | text
  /-- The value has to be a number, or to be convertible to one. -/
  | number
  /-- The text has to denote a number. -/
  | numberText
  /-- The value has to be a whole number, or to be convertible to one. -/
  | whole
  /-- The text has to denote a whole number. -/
  | wholeText
  /-- The number has to fit into a machine word before it is made whole. -/
  | wholeSize
  /-- The number must not have a fraction. -/
  | noFraction
  /-- The number has to be finite. -/
  | finite
  /-- The number has to be at least the least one allowed. -/
  | atLeast
  /-- The value has to be a truth value, or to be convertible to one. -/
  | truth
  /-- The value has to be one of those that stand for a truth value. -/
  | truthText
  /-- The value has to be one of a few texts. -/
  | choice
  /-- The value has to be a table. -/
  | table
  /-- The value must not lie too deep inside others. -/
  | nesting
  /-- The text has to be the name of a log level. -/
  | logLevel (given : String)
deriving DecidableEq

namespace Rule

/-- The name under which a broken rule is reported. -/
def name : Rule → String
  | present => "missing"
  | text => "string_type"
  | number => "float_type"
  | numberText => "float_parsing"
  | whole => "int_type"
  | wholeText => "int_parsing"
  | wholeSize => "int_parsing_size"
  | noFraction => "int_from_float"
  | finite => "finite_number"
  | atLeast => "greater_than_equal"
  | truth => "bool_type"
  | truthText => "bool_parsing"
  | choice => "enum"
  | table => "model_type"
  | nesting => "recursion_loop"
  | logLevel _ => "value_error"

/-- The message of a broken rule, where the rule has one of its own. -/
def message? : Rule → Option String
  | logLevel given => some ("Value error, unknown log level: " ++ given)
  | _ => none

end Rule

/-- A broken rule, and the path to the value that breaks it. -/
structure Violation where
  /-- The keys on the way to the value, outermost first. -/
  path : List String
  /-- The rule that is broken. -/
  rule : Rule
deriving DecidableEq

namespace Violation

/-- A violation inside the value of a key. -/
def under (key : String) (violation : Violation) : Violation :=
  { violation with path := key :: violation.path }

end Violation

end Calculator.Document
