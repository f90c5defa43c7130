import Calculator.Expr.Evaluation
import Calculator.Expr.Walk
import Calculator.Log
import Calculator.Parser

/-!
# Calculations

A calculation takes one source from its characters to a value or a diagnostic (`calculate`). It
starts from nothing but the source, so what one source does cannot affect another. It keeps the
tokens that were handed out, and it notes in the log how far it came (`Calculation.log`).
-/

namespace Calculator

/-- The failure of an evaluation, as it is reported; it has no place in a source. -/
def EvalFault.diagnostic (fault : EvalFault) : Diagnostic where
  kind := .evaluation
  message := fault.message
  place := none

/-- The expression that a source holds, or what is wrong with it. -/
def parseExpr (source : String) (allowTrailing : Bool) : Except Diagnostic Expr :=
  (parseSource source allowTrailing).outcome.mapError fun fault => fault.diagnostic source

/-- An expression with its value. -/
structure Answer where
  /-- The expression. -/
  expr : Expr
  /-- Its value. -/
  value : Binary64
deriving DecidableEq

/-- What became of one source. -/
structure Calculation where
  /-- The source. -/
  source : String
  /-- The expression with its value, or what went wrong. -/
  outcome : Except Diagnostic Answer
  /-- The tokens that were handed out on the way. -/
  tokens : List Token

/-- Read a source as an expression and evaluate it. -/
def calculate (source : String) (allowTrailing : Bool) : Calculation :=
  let parsed := parseSource source allowTrailing
  let outcome : Except Diagnostic Answer :=
    match parsed.outcome with
    | .error fault => .error (fault.diagnostic source)
    | .ok expr =>
        match expr.evaluate Expr.rules with
        | .error fault => .error fault.diagnostic
        | .ok value => .ok ⟨expr, value⟩
  ⟨source, outcome, parsed.lexer.recorded.toList⟩

/-! ## The log of a calculation -/

/-- An entry about a detail. -/
def LogEntry.detail (logger : Logger) (text : String) : LogEntry :=
  ⟨logger, .debug, text⟩

/-- The entry for a token. -/
def Token.logEntry (token : Token) : LogEntry :=
  .detail .tokenizer ("token " ++ token.shown)

/-- The entry for an expression that was read. -/
def Expr.readEntry (source : String) (expr : Expr) : LogEntry :=
  .detail .parser ("parsed " ++ Text.quote source ++ ": " ++ Decimal.natural expr.nodeCount ++
    " nodes, depth " ++ Decimal.natural expr.depth)

/-- The entry for an expression that was evaluated. -/
def Answer.logEntry (answer : Answer) : LogEntry :=
  .detail .evaluator ("evaluated " ++ answer.expr.render ++ " = " ++ answer.value.text)

/-- The entry for a source that came to no value. -/
def Diagnostic.logEntry (source : String) (d : Diagnostic) : LogEntry :=
  .detail .pipeline (d.kind.name ++ " in " ++ Text.quote source ++ ": " ++ d.message)

/-- What a calculation notes: the expression and its value, or what went wrong. -/
def Calculation.log (calculation : Calculation) : List LogEntry :=
  match calculation.outcome with
  | .ok answer => [answer.expr.readEntry calculation.source, answer.logEntry]
  | .error diagnostic => [diagnostic.logEntry calculation.source]

end Calculator
