import Calculator.Calculation
import Calculator.CommandLine.Outcome
import Calculator.CommandLine.Request
import Calculator.Console.Layout

/-!
# Replies to an expression

What is written for one expression, in this order: the log entries of its calculation, its tokens
and its tree where they are asked for, and its value; or, if it has none, what is wrong with it, and
on two lines where. The value and the tokens go to the output, and a diagnostic goes to the error
output (`reply`).
-/

namespace Calculator.CommandLine

/-- The greatest number of decimal places that a value can be displayed with. -/
def mostPlaces : Nat := Nat.pow 2 31 - 1

/-- A value as it is displayed under some settings. -/
def displayed (settings : Settings) (value : Binary64) : Except Breakdown String :=
  if mostPlaces < settings.precision.getD 0 then .error .tooManyPlaces
  else .ok (value.display settings.precision)

/-- A text on the output, laid out on lines of its own. -/
def Event.shown (text : String) : Event :=
  .output (Console.paragraph text)

/-- What is written for the tokens of a calculation. -/
def tokenEvents (tokens : List Token) : List Event :=
  tokens.map fun token => .shown token.shown

/-- What is written for a tree: the tree on one line, and its size and depth on the next one. -/
def treeEvents (expr : Expr) : List Event :=
  [.output (Console.verbatim expr.render),
    .shown ("nodes: " ++ Decimal.natural expr.nodeCount ++ ", depth: " ++
      Decimal.natural expr.depth)]

/-- What is written for a diagnostic: its summary, and the place with the pointer if it has one. -/
def diagnosticEvents (diagnostic : Diagnostic) : List Event :=
  .error (Console.paragraph diagnostic.summary) ::
    match diagnostic.place with
    | none => []
    | some place => [.error (Console.verbatim place.pointer)]

/-- The reply to an expression. Where its value cannot be displayed, what is shown before the value has
been written already. -/
def reply (settings : Settings) (options : EvalOptions) (source : String) : Outcome :=
  let calculation := calculate source (options.allowTrailing || settings.allowTrailing)
  let log := calculation.log.map Event.log
  match calculation.outcome with
  | .error diagnostic => ⟨log ++ diagnosticEvents diagnostic, .failure⟩
  | .ok answer =>
      let tokens := if options.showTokens then tokenEvents calculation.tokens else []
      let tree := if options.showTree then treeEvents answer.expr else []
      match displayed settings answer.value with
      | .error breakdown => ⟨log ++ tokens ++ tree, .broken breakdown⟩
      | .ok text => ⟨log ++ tokens ++ tree ++ [.shown text], .success⟩

end Calculator.CommandLine
