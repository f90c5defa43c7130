import Calculator.Binary64.Arithmetic
import Calculator.Binary64.Basic
import Calculator.Binary64.Rounding
import Calculator.Calculation
import Calculator.CommandLine.Arguments
import Calculator.CommandLine.Event
import Calculator.CommandLine.Outcome
import Calculator.CommandLine.Reply
import Calculator.CommandLine.Request
import Calculator.CommandLine.Run
import Calculator.CommandLine.Session
import Calculator.Console.Layout
import Calculator.Console.Markup
import Calculator.Decimal.Basic
import Calculator.Decimal.Layout
import Calculator.Decimal.Reading
import Calculator.Decimal.Shortest
import Calculator.Decimal.Whole
import Calculator.Diagnostic
import Calculator.Document.Value
import Calculator.Document.Violation
import Calculator.Expr.Basic
import Calculator.Expr.Evaluation
import Calculator.Expr.Record
import Calculator.Expr.Walk
import Calculator.Lexeme
import Calculator.Lexer
import Calculator.Log
import Calculator.Main
import Calculator.Parser
import Calculator.Proofs.Binary64.Nearest
import Calculator.Proofs.Binary64.Rational
import Calculator.Proofs.Binary64.Uniqueness
import Calculator.Proofs.Calculation.Composition
import Calculator.Proofs.Calculation.Log
import Calculator.Proofs.Calculation.Outcome
import Calculator.Proofs.Calculation.Spacing
import Calculator.Proofs.CommandLine.Conversation
import Calculator.Proofs.CommandLine.Ending
import Calculator.Proofs.CommandLine.Evaluation
import Calculator.Proofs.CommandLine.Logging
import Calculator.Proofs.CommandLine.Preparation
import Calculator.Proofs.CommandLine.Verbatim
import Calculator.Proofs.Console.Rows
import Calculator.Proofs.Decimal.Digits
import Calculator.Proofs.Decimal.Display
import Calculator.Proofs.Decimal.Fewest
import Calculator.Proofs.Decimal.Fixed
import Calculator.Proofs.Decimal.Length
import Calculator.Proofs.Decimal.Notation
import Calculator.Proofs.Decimal.ReadBack
import Calculator.Proofs.Decimal.Shortest
import Calculator.Proofs.Diagnostic
import Calculator.Proofs.Expr.Injective
import Calculator.Proofs.Expr.Loop
import Calculator.Proofs.Expr.Record
import Calculator.Proofs.Expr.Walk
import Calculator.Proofs.Expr.Written
import Calculator.Proofs.Lexer.Concatenation
import Calculator.Proofs.Lexer.Cursor
import Calculator.Proofs.Lexer.Cut
import Calculator.Proofs.Lexer.Division
import Calculator.Proofs.Lexer.Partition
import Calculator.Proofs.Lexer.Stream
import Calculator.Proofs.Parser.Alike
import Calculator.Proofs.Parser.Automaton
import Calculator.Proofs.Parser.Consumption
import Calculator.Proofs.Parser.Grammar
import Calculator.Proofs.Parser.Inorder
import Calculator.Proofs.Parser.Literal
import Calculator.Proofs.Parser.Machine
import Calculator.Proofs.Parser.Prefix
import Calculator.Proofs.Parser.Recognition
import Calculator.Proofs.Parser.Record
import Calculator.Proofs.Parser.RoundTrip
import Calculator.Proofs.Parser.Rules
import Calculator.Proofs.Parser.Run
import Calculator.Proofs.Parser.Spelling
import Calculator.Proofs.Parser.Succession
import Calculator.Proofs.Parser.Trailing
import Calculator.Proofs.Release
import Calculator.Proofs.Settings.Coercion
import Calculator.Proofs.Settings.Fieldwise
import Calculator.Proofs.Text.Plain
import Calculator.Proofs.Text.Quoted
import Calculator.Proofs.Text.Unquoted
import Calculator.Proofs.Toml.Room
import Calculator.Release
import Calculator.Settings
import Calculator.Text.Blank
import Calculator.Text.Cluster
import Calculator.Text.Columns
import Calculator.Text.Lines
import Calculator.Text.Printable
import Calculator.Text.Quoted
import Calculator.Token
import Calculator.Toml.Composite
import Calculator.Toml.File
import Calculator.Toml.Node
import Calculator.Toml.Reading
import Calculator.Toml.Scalar
