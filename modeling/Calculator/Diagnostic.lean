import Calculator.Text.Blank
import Calculator.Token

/-!
# Diagnostics

What goes wrong with an expression, from the cause to the text that a reader sees.

* A **cause** says what is wrong: a character that no symbol starts with, digits and points that are
  no number, or a symbol that the grammar does not allow where it stands, with the symbol (`Cause`).
  Its wording is in one place, `Cause.message`.
* A **fault** is a cause at a position of the input (`Fault`).
* A **diagnostic** is what is reported: a kind, a message and, where it is known, the place in the
  source (`Diagnostic`). A place is drawn as the source on one line with a pointer under the
  position (`Place.pointer`).
-/

namespace Calculator

/-! ## Places -/

/-- A position in a source text. -/
structure Place where
  /-- The whole source. -/
  source : String
  /-- How many characters stand before the position. -/
  pos : Int
deriving DecidableEq

namespace Place

/-- The column of a place, counted from one. -/
def column (place : Place) : Int :=
  place.pos + 1

/-- A character on the line above the pointer: a blank of any sort is one plain space, so that it
takes one column and ends no line. -/
def flatten (c : Char) : Char :=
  if Text.isBlank c then ' ' else c

/-- The source on one line. -/
def line (place : Place) : String :=
  String.ofList (place.source.toList.map flatten)

/-- The mark under the position. -/
def caret (place : Place) : String :=
  String.ofList (List.replicate place.pos.toNat ' ' ++ ['^'])

/-- The source with a mark under the position. -/
def pointer (place : Place) : String :=
  place.line ++ "\n" ++ place.caret

end Place

/-! ## Diagnostics -/

/-- The kind of a diagnostic. -/
inductive Diagnostic.Kind
  /-- No particular kind. -/
  | general
  /-- Characters that form no symbol. -/
  | lexical
  /-- Symbols that form no expression. -/
  | syntactic
  /-- A tree that has no value. -/
  | evaluation
deriving DecidableEq

/-- The name under which a kind is reported. -/
def Diagnostic.Kind.name : Diagnostic.Kind → String
  | general => "ReckonError"
  | lexical => "LexError"
  | syntactic => "ParseError"
  | evaluation => "EvalError"

/-- What is reported when something goes wrong. -/
structure Diagnostic where
  /-- The kind. -/
  kind : Diagnostic.Kind
  /-- What is wrong, without the place. -/
  message : String
  /-- Where it is, if that is known. -/
  place : Option Place
deriving DecidableEq

namespace Diagnostic

/-- The message, with the column where the place is known. -/
def description (d : Diagnostic) : String :=
  match d.place with
  | none => d.message
  | some place => d.message ++ " at column " ++ Decimal.integer place.column

/-- The kind and the message, without the place. -/
def summary (d : Diagnostic) : String :=
  d.kind.name ++ ": " ++ d.message

end Diagnostic

/-! ## Causes -/

/-- What the grammar objects to. -/
inductive Complaint
  /-- An operand is needed here. -/
  | unexpected
  /-- An open group has to be closed, or continued by an operator. -/
  | missingParenthesis
  /-- Another group would open too many at once. -/
  | nestedTooDeeply
  /-- The expression was complete before. -/
  | trailing
deriving DecidableEq

/-- The words of a complaint. -/
def Complaint.message : Complaint → String
  | unexpected => "unexpected token"
  | missingParenthesis => "missing closing parenthesis"
  | nestedTooDeeply => "expression too deeply nested"
  | trailing => "unexpected token after expression"

/-- What is wrong with an expression. -/
inductive Cause
  /-- No symbol starts with this character. -/
  | unknownCharacter (c : Char)
  /-- Digits and points that denote no number. -/
  | malformedNumber (text : List Char)
  /-- The grammar does not allow this symbol here. -/
  | misplaced (complaint : Complaint) (found : Symbol)
deriving DecidableEq

namespace Cause

/-- The kind of diagnostic that a cause leads to. -/
def kind : Cause → Diagnostic.Kind
  | unknownCharacter _ | malformedNumber _ => .lexical
  | misplaced _ _ => .syntactic

/-- The words for a cause. -/
def message : Cause → String
  | unknownCharacter c => "unknown token: " ++ Text.quote (String.singleton c)
  | malformedNumber text => "invalid number literal: " ++ Text.quote (String.ofList text)
  | misplaced complaint .endOfInput => complaint.message ++ ": end of input"
  | misplaced complaint found => complaint.message ++ ": " ++ found.shown

end Cause

/-- A cause at a position of the input. -/
structure Fault where
  /-- What is wrong. -/
  cause : Cause
  /-- How many characters stand before it. -/
  pos : Nat
deriving DecidableEq

/-- A fault in a source, as it is reported. -/
def Fault.diagnostic (fault : Fault) (source : String) : Diagnostic where
  kind := fault.cause.kind
  message := fault.cause.message
  place := some ⟨source, fault.pos⟩

end Calculator
