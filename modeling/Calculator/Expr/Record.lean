import Calculator.Decimal.Reading
import Calculator.Document.Violation
import Calculator.Expr.Basic

/-!
# Expressions as records

An expression can be given as a document: a number is a table with the field `value`, an operation
is a table with the fields `op`, `left` and `right`. Fields with other names do not matter.

* A number may be given as a number, as a truth value, or as a text that denotes a number
  (`numberOf`).
* An operand may be either kind of table, and a table can have the fields of both. It is read both
  ways, and where both readings are valid, the one counts for which more fields were set, those of
  the records inside it included (`Match`). A table that is neither is answered with the violations
  of both readings (`operandOf`).
* Records stand inside each other up to a limit (`deepestRecord`). An operation whose operands lie
  beyond it is not valid, and so it may still be a number.

`Expr.toRecord` writes an expression as a record, with its numbers as texts in plain form.
-/

namespace Calculator.Expr

open Document

/-- The number that a value stands for. -/
def numberOf : Value → Except Rule Binary64
  | .integer n =>
      match Binary64.ofRatio (n < 0) (n.natAbs * Magnitude.unitsOfOne) 1 with
      | .finite negative m => .ok (.finite negative m)
      | _ => .error .number
  | .boolean b => .ok (if b then .one else .zero)
  | .float x => .ok x
  | .text s =>
      match readNumber? s.toList with
      | some x => .ok x
      | none => .error .numberText
  | _ => .error .number
where
  /-- A number text with white space around it, or one with single underscores inside it. -/
  readNumber? (text : List Char) : Option Binary64 :=
    match Binary64.ofText? (Text.trim Text.isWhiteSpace text) with
    | some x => some x
    | none => (Text.withoutSeparators? text).bind Binary64.ofText?

/-- The operator that a value stands for. -/
def operatorOf : Value → Except Rule Operator
  | .text s =>
      match Operator.ofText? s with
      | some op => .ok op
      | none => .error .choice
  | _ => .error .choice

/-- The value of a field, read by `read`; a field that is not there is a violation. -/
def required {α : Type} (entries : Table) (key : String) (read : Value → Except Rule α) :
    Except (List Violation) α :=
  match Table.get? entries key with
  | none => .error [⟨[key], .present⟩]
  | some value => (read value).mapError fun rule => [⟨[key], rule⟩]

/-- The violations of an answer. -/
def violations {α : Type} : Except (List Violation) α → List Violation
  | .ok _ => []
  | .error found => found

/-- What a table was read as. -/
structure Match where
  /-- The expression. -/
  expr : Expr
  /-- How many fields were set for it, in the table and in those of its operands. -/
  fieldsSet : Nat

/-- The better one of two readings of one table: the one for which more fields were set. The first
one would count of two with as many, but a number and an operation never have as many. -/
def Match.better (first second : Match) : Match :=
  if first.fieldsSet < second.fieldsSet then second else first

/-- A table read as a number, for which one field is set. -/
def numberMatch (entries : Table) : Except (List Violation) Match :=
  (required entries "value" numberOf).map fun value => ⟨.leaf value, 1⟩

/-- The operand at a key of a table, read by `operand`. -/
def operandAt (operand : Value → Except (List Violation) Match) (entries : Table) (key : String) :
    Except (List Violation) Match :=
  match Table.get? entries key with
  | none => .error [⟨[key], .present⟩]
  | some value => (operand value).mapError fun found => found.map (Violation.under key)

/-- A table read as an operation, its operands read by `operand`. All three fields are read, and the
violations of all are listed. The fields that were set for the operands count for the operation too.
-/
def operationMatch (operand : Value → Except (List Violation) Match) (entries : Table) :
    Except (List Violation) Match :=
  let op := required entries "op" operatorOf
  let left := operandAt operand entries "left"
  let right := operandAt operand entries "right"
  match op, left, right with
  | .ok op, .ok left, .ok right =>
      .ok ⟨.node op left.expr right.expr, 3 + left.fieldsSet + right.fieldsSet⟩
  | _, _, _ => .error (violations op ++ violations left ++ violations right)

/-- What a table is read as that may be a number or an operation: the better one of the two readings
if both are valid, or else the valid one. -/
def eitherMatch (number operation : Except (List Violation) Match) :
    Except (List Violation) Match :=
  match number, operation with
  | .ok number, .ok operation => .ok (number.better operation)
  | .ok number, .error _ => .ok number
  | .error _, .ok operation => .ok operation
  | .error number, .error operation =>
      .error (number.map (Violation.under "NumberLeaf") ++
        operation.map (Violation.under "BinaryOp"))

/-- A value read as an operand, with room for the given number of records inside each other. Where
there is no room it is neither a number nor an operation. -/
def operandOf : (room : Nat) → Value → Except (List Violation) Match
  | 0, _ => .error [⟨["NumberLeaf"], .nesting⟩, ⟨["BinaryOp"], .nesting⟩]
  | room + 1, .table entries =>
      eitherMatch (numberMatch entries) (operationMatch (operandOf room) entries)
  | _ + 1, _ => .error [⟨["NumberLeaf"], .table⟩, ⟨["BinaryOp"], .table⟩]

/-- How many records may stand inside each other, the outermost one included. -/
def deepestRecord : Nat := 255

/-- A table read as a number and as nothing else. -/
def ofNumberRecord (entries : Table) : Except (List Violation) Expr :=
  (numberMatch entries).map Match.expr

/-- A table read as an operation and as nothing else. -/
def ofOperationRecord (entries : Table) : Except (List Violation) Expr :=
  (operationMatch (operandOf (deepestRecord - 1)) entries).map Match.expr

/-- An expression as a record, its numbers as texts in plain form. -/
def toRecord : Expr → Value
  | .leaf value => .table [("value", .text value.text)]
  | .node op left right =>
      .table [("op", .text op.text), ("left", toRecord left), ("right", toRecord right)]
  | .foreign item => item.elim

end Calculator.Expr
