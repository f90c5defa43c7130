import Calculator.Expr.Record
import Calculator.Proofs.Decimal.Display
import Calculator.Proofs.Expr.Loop
import Calculator.Proofs.Parser.RoundTrip
import Calculator.Proofs.Text.Plain

/-!
# Records of expressions are read back

A table records an expression if it has what the expression needs under the keys that matter. All
other keys are free, and so is the key of a number in the table of an operation (`Records`). The
record that is written for an expression is such a table (`exists_toRecord`), and it stays one when
entries are added to it (`Records.put`, `Records.put_value`).

* The fields that are set for an expression are counted by its nodes (`Match.IsCounted`). So for an
  operation more of them are set than for a number, and a table that can be read as both is read as
  the operation (`fieldsSet_lt`, `operandOf_eq_ok_iff`).
* An operand is read as the expression that its table records, if there is room for as many tables
  inside each other as the expression is high (`operandOf_of_records`). The induction is on the
  expression.
* What is read is never higher than there is room (`height_le_of_operandOf`).

`readLike_eq_ok_iff_depth_le` states this for the table of a whole expression: expressions up to the
greatest depth are read back, and no others.
-/

namespace Calculator

namespace Expr

open Document

/-! ## Tables that record an expression -/

/-- The keys of an operation. -/
def operationKeys : List String := ["op", "left", "right"]

/-- A table that records an expression: a number as a text in plain form, without any key of an
operation, or an operation with two operands that are recorded in turn. -/
inductive Records : Table → Expr → Prop
  /-- A number. -/
  | leaf {entries : Table} (value : Binary64)
      (number : Table.get? entries "value" = some (.text value.text))
      (bare : ∀ key ∈ operationKeys, Table.get? entries key = none) :
      Records entries (.leaf value)
  /-- An operation. There may be a number besides it, and it may be anything. -/
  | node {entries first second : Table} {left right : Expr} (op : Operator)
      (operator : Table.get? entries "op" = some (.text op.text))
      (hleft : Table.get? entries "left" = some (.table first))
      (hright : Table.get? entries "right" = some (.table second))
      (recordsLeft : Records first left) (recordsRight : Records second right) :
      Records entries (.node op left right)

/-- **What is written for an expression records it.** -/
lemma exists_toRecord (expr : Expr) :
    ∃ entries, expr.toRecord = .table entries ∧ Records entries expr := by
  induction expr with
  | leaf value =>
      refine ⟨_, rfl, .leaf value rfl ?_⟩
      simp [operationKeys, Table.get?]
  | foreign item => exact item.elim
  | node op left right ihl ihr =>
      obtain ⟨first, hfirst, recordsLeft⟩ := ihl
      obtain ⟨second, hsecond, recordsRight⟩ := ihr
      refine ⟨_, rfl, .node op rfl ?_ ?_ recordsLeft recordsRight⟩
      · rw [hfirst]
        rfl
      · rw [hsecond]
        rfl

/-- An entry with any other key changes nothing in what is recorded. -/
lemma Records.put {entries : Table} {expr : Expr} (h : Records entries expr) {key : String}
    (other : key ∉ "value" :: operationKeys) (value : Value) :
    Records (Table.put entries key value) expr := by
  have same : ∀ name ∈ "value" :: operationKeys,
      Table.get? (Table.put entries key value) name = Table.get? entries name := by
    intro name mem
    exact Table.get?_put_of_ne fun equal => other (equal ▸ mem)
  cases h with
  | leaf number given bare =>
      refine .leaf number ?_ fun name mem => ?_
      · rw [same _ (by decide), given]
      · rw [same _ (List.mem_cons_of_mem _ mem), bare name mem]
  | node op operator hleft hright recordsLeft recordsRight =>
      refine .node op ?_ ?_ ?_ recordsLeft recordsRight
      · rw [same _ (by decide), operator]
      · rw [same _ (by decide), hleft]
      · rw [same _ (by decide), hright]

/-- Nor does the key of a number in the table of an operation, whatever its value. -/
lemma Records.put_value {entries : Table} {op : Operator} {left right : Expr}
    (h : Records entries (.node op left right)) (value : Value) :
    Records (Table.put entries "value" value) (.node op left right) := by
  cases h with
  | node op operator hleft hright recordsLeft recordsRight =>
      refine .node op ?_ ?_ ?_ recordsLeft recordsRight
      · rw [Table.get?_put_of_ne (by decide), operator]
      · rw [Table.get?_put_of_ne (by decide), hleft]
      · rw [Table.get?_put_of_ne (by decide), hright]

/-! ## Fields -/

/-- No character of a number in plain form is white space. -/
lemma isWhiteSpace_of_mem_plainForm {x : Binary64} {c : Char} (h : c ∈ x.plainForm) :
    Text.isWhiteSpace c = false := by
  have all : ∀ c ∈ numberCharacters, Text.isWhiteSpace c = false :=
    List.all_iff_forall_prop.mp (by decide)
  exact all c (mem_numberCharacters h)

/-- A text is the number that the reader makes of it. -/
lemma numberOf_eq (s : String) :
    numberOf (.text s) =
      match numberOf.readNumber? s.toList with
      | some x => .ok x
      | none => .error .numberText := rfl

/-- **A number in plain form is read as the number**, also where it is none. -/
lemma numberOf_text (x : Binary64) : numberOf (.text x.text) = .ok x := by
  have trimmed : Text.trim Text.isWhiteSpace x.text.toList = x.text.toList := by
    apply Text.trim_eq_self
    intro c hc
    rw [Binary64.text, String.toList_ofList] at hc
    exact isWhiteSpace_of_mem_plainForm hc
  rw [numberOf_eq, numberOf.readNumber?, trimmed, Binary64.ofText?_text]

/-- The text of an operator is read as the operator. -/
lemma operatorOf_text (op : Operator) : operatorOf (.text op.text) = .ok op := by
  simp only [operatorOf, Operator.ofText?_eq_some_iff.mpr rfl]

variable {entries : Table} {key : String} {value : Value}

/-- A field that is there and can be read has been read. -/
lemma required_of_ok {α : Type} {read : Value → Except Rule α} {a : α}
    (there : Table.get? entries key = some value) (h : read value = .ok a) :
    required entries key read = .ok a := by
  rw [required, there]
  simp only [h]
  rfl

/-- A field that is not there cannot be read. -/
lemma required_of_none {α : Type} (missing : Table.get? entries key = none)
    (read : Value → Except Rule α) : required entries key read = .error [⟨[key], .present⟩] := by
  rw [required, missing]

/-- An operand that is there is read as it is read on its own. -/
lemma operandAt_eq_ok_iff {operand : Value → Except (List Violation) Match} {m : Match} :
    operandAt operand entries key = .ok m ↔
      ∃ value, Table.get? entries key = some value ∧ operand value = .ok m := by
  unfold operandAt
  split
  next missing => simp [missing]
  next value there =>
    rw [there]
    cases hread : operand value <;> simp [Except.mapError, hread]

/-! ## Two readings of one table -/

section Readings

variable {operand : Value → Except (List Violation) Match} {m number operation : Match}

/-- A table is read as a number if its value can be read as one. -/
lemma numberMatch_eq_ok_iff :
    numberMatch entries = .ok m ↔
      ∃ x, required entries "value" numberOf = .ok x ∧ m = ⟨.leaf x, 1⟩ := by
  unfold numberMatch
  cases required entries "value" numberOf with
  | error found => simp [Except.map]
  | ok x => simp [Except.map, eq_comm]

/-- A table is read as an operation if all its three fields can be read. -/
lemma operationMatch_eq_ok_iff :
    operationMatch operand entries = .ok m ↔
      ∃ op left right, required entries "op" operatorOf = .ok op ∧
        operandAt operand entries "left" = .ok left ∧
          operandAt operand entries "right" = .ok right ∧
            m = ⟨.node op left.expr right.expr, 3 + left.fieldsSet + right.fieldsSet⟩ := by
  unfold operationMatch
  simp only
  constructor
  · intro h
    split at h
    next op left right hop hleft hright =>
      exact ⟨op, left, right, hop, hleft, hright, (Except.ok.inj h).symm⟩
    next => cases h
  · rintro ⟨op, left, right, hop, hleft, hright, rfl⟩
    simp only [hop, hleft, hright]

/-- A table without an operator is no operation. -/
lemma operationMatch_of_none (missing : Table.get? entries "op" = none) :
    ∃ found, operationMatch operand entries = .error found := by
  simp only [operationMatch, required_of_none missing]
  exact ⟨_, rfl⟩

/-- The fields that are set for an expression are those of its nodes: one for a number, and for an
operation three and those of its operands. -/
def Match.IsCounted (m : Match) : Prop :=
  m.fieldsSet + 1 = 2 * m.expr.size

/-- The one field of a number is counted. -/
lemma isCounted_of_numberMatch (h : numberMatch entries = .ok m) : m.IsCounted := by
  obtain ⟨x, -, rfl⟩ := numberMatch_eq_ok_iff.mp h
  rfl

/-- Where the fields of the operands are counted, those of the operation are. -/
lemma isCounted_of_operationMatch
    (counted : ∀ {value : Value} {m : Match}, operand value = .ok m → m.IsCounted)
    (h : operationMatch operand entries = .ok m) : m.IsCounted := by
  obtain ⟨op, left, right, -, hleft, hright, rfl⟩ := operationMatch_eq_ok_iff.mp h
  obtain ⟨_, -, readLeft⟩ := operandAt_eq_ok_iff.mp hleft
  obtain ⟨_, -, readRight⟩ := operandAt_eq_ok_iff.mp hright
  have first := counted readLeft
  have second := counted readRight
  unfold Match.IsCounted at *
  simp only [Tree.size]
  omega

/-- What is read in one of two ways is one of the two readings. -/
lemma eq_or_eq_of_eitherMatch {first second : Except (List Violation) Match}
    (h : eitherMatch first second = .ok m) : first = .ok m ∨ second = .ok m := by
  unfold eitherMatch at h
  split at h
  next number operation =>
    rw [← Except.ok.inj h, Match.better]
    split_ifs
    · exact Or.inr rfl
    · exact Or.inl rfl
  next => exact Or.inl h
  next => exact Or.inr h
  next => cases h

/-- **The fields that are set for an operand are counted**, however deep it is. -/
lemma isCounted_of_operandOf {room : Nat} {value : Value} (h : operandOf room value = .ok m) :
    m.IsCounted := by
  induction room generalizing value m with
  | zero => cases h
  | succ room ih =>
      cases value with
      | table entries =>
          rcases eq_or_eq_of_eitherMatch h with number | operation
          · exact isCounted_of_numberMatch number
          · exact isCounted_of_operationMatch ih operation
      | _ => cases h

/-- **For an operation more fields are set than for a number** in the same table. -/
theorem fieldsSet_lt {room : Nat} (hnumber : numberMatch entries = .ok number)
    (hoperation : operationMatch (operandOf room) entries = .ok operation) :
    number.fieldsSet < operation.fieldsSet := by
  have few := isCounted_of_numberMatch hnumber
  have many := isCounted_of_operationMatch isCounted_of_operandOf hoperation
  obtain ⟨x, -, rfl⟩ := numberMatch_eq_ok_iff.mp hnumber
  obtain ⟨op, left, right, -, -, -, rfl⟩ := operationMatch_eq_ok_iff.mp hoperation
  have first := left.expr.size_pos
  have second := right.expr.size_pos
  unfold Match.IsCounted at few many
  simp only [Tree.size] at few many
  show 1 < 3 + left.fieldsSet + right.fieldsSet
  omega

/-- **A table that can be read both ways is an operation**, and it is a number only if it is no
operation. -/
lemma operandOf_eq_ok_iff {room : Nat} :
    operandOf (room + 1) (.table entries) = .ok m ↔
      operationMatch (operandOf room) entries = .ok m ∨
        (∃ found, operationMatch (operandOf room) entries = .error found) ∧
          numberMatch entries = .ok m := by
  rw [operandOf]
  cases hoperation : operationMatch (operandOf room) entries with
  | error found => cases numberMatch entries <;> simp [eitherMatch]
  | ok operation =>
      cases hnumber : numberMatch entries with
      | error found => simp [eitherMatch]
      | ok number =>
          have better : number.better operation = operation := if_pos (fieldsSet_lt hnumber hoperation)
          simp [eitherMatch, better]

/-- An operation is one level higher than its operands may be. -/
lemma height_le_of_operationMatch {room : Nat}
    (bounded : ∀ {value : Value} {m : Match}, operand value = .ok m → m.expr.height ≤ room)
    (h : operationMatch operand entries = .ok m) : m.expr.height ≤ room + 1 := by
  obtain ⟨op, left, right, -, hleft, hright, rfl⟩ := operationMatch_eq_ok_iff.mp h
  obtain ⟨_, -, readLeft⟩ := operandAt_eq_ok_iff.mp hleft
  obtain ⟨_, -, readRight⟩ := operandAt_eq_ok_iff.mp hright
  have first := bounded readLeft
  have second := bounded readRight
  simp only [Tree.height]
  omega

/-- **What is read as an operand is no higher than there is room.** -/
lemma height_le_of_operandOf {room : Nat} {value : Value} (h : operandOf room value = .ok m) :
    m.expr.height ≤ room := by
  induction room generalizing value m with
  | zero => cases h
  | succ room ih =>
      cases value with
      | table entries =>
          rcases eq_or_eq_of_eitherMatch h with number | operation
          · obtain ⟨x, -, rfl⟩ := numberMatch_eq_ok_iff.mp number
            exact Nat.le_add_left 1 room
          · exact height_le_of_operationMatch ih operation
      | _ => cases h

/-- What is read as an operation is bounded like that too. -/
lemma height_le_of_ofOperationRecord {expr : Expr} (h : ofOperationRecord entries = .ok expr) :
    expr.height ≤ deepestRecord := by
  unfold ofOperationRecord at h
  cases hread : operationMatch (operandOf (deepestRecord - 1)) entries with
  | error found =>
      rw [hread] at h
      cases h
  | ok m =>
      rw [hread] at h
      obtain rfl := Except.ok.inj h
      exact height_le_of_operationMatch height_le_of_operandOf hread

end Readings

/-! ## Operands -/

/-- A number is read from its table. -/
lemma numberMatch_of_text {x : Binary64}
    (number : Table.get? entries "value" = some (.text x.text)) :
    numberMatch entries = .ok ⟨.leaf x, 1⟩ :=
  numberMatch_eq_ok_iff.mpr ⟨x, required_of_ok number (numberOf_text x), rfl⟩

/-- A table with an operator and two operands is an operation. -/
lemma exists_operationMatch {operand : Value → Except (List Violation) Match} {op : Operator}
    {left right : Match} {first second : Value}
    (operator : Table.get? entries "op" = some (.text op.text))
    (hleft : Table.get? entries "left" = some first)
    (hright : Table.get? entries "right" = some second) (readLeft : operand first = .ok left)
    (readRight : operand second = .ok right) :
    ∃ count, operationMatch operand entries = .ok ⟨.node op left.expr right.expr, count⟩ :=
  ⟨_, operationMatch_eq_ok_iff.mpr ⟨op, left, right, required_of_ok operator (operatorOf_text op),
    operandAt_eq_ok_iff.mpr ⟨first, hleft, readLeft⟩,
    operandAt_eq_ok_iff.mpr ⟨second, hright, readRight⟩, rfl⟩⟩

/-- **An operand is read as what its table records**, if there is room for it. -/
lemma operandOf_of_records {expr : Expr} (h : Records entries expr) {room : Nat}
    (fits : expr.height ≤ room) : ∃ count, operandOf room (.table entries) = .ok ⟨expr, count⟩ := by
  induction h generalizing room with
  | @leaf entries x number bare =>
      obtain ⟨room, rfl⟩ := Nat.exists_eq_add_one.mpr (Nat.lt_of_lt_of_le Nat.zero_lt_one fits)
      have noOperation : ∃ found, operationMatch (operandOf room) entries = .error found :=
        operationMatch_of_none (bare "op" (by decide))
      exact ⟨1, operandOf_eq_ok_iff.mpr (Or.inr ⟨noOperation, numberMatch_of_text number⟩)⟩
  | @node entries first second left right op operator hleft hright _ _ readLeft readRight =>
      rw [Tree.height] at fits
      obtain ⟨room, rfl⟩ := Nat.exists_eq_add_one.mpr (show 0 < room by omega)
      obtain ⟨_, foundLeft⟩ := @readLeft room (by omega)
      obtain ⟨_, foundRight⟩ := @readRight room (by omega)
      obtain ⟨count, operation⟩ :=
        exists_operationMatch operator hleft hright foundLeft foundRight
      exact ⟨count, operandOf_eq_ok_iff.mpr (Or.inl operation)⟩

/-! ## Whole records -/

/-- A table read as an expression of the kind of another one: as a number or as an operation. -/
def readLike : Expr → Table → Except (List Violation) Expr
  | .leaf _ => ofNumberRecord
  | .node _ _ _ => ofOperationRecord
  | .foreign item => item.elim

/-- **An expression is read back from every table that records it**, up to the greatest depth of
records and no further. What is written for it is such a table. -/
theorem readLike_eq_ok_iff_depth_le (expr : Expr) :
    (∃ entries, expr.toRecord = .table entries ∧ Records entries expr) ∧
      ∀ entries, Records entries expr →
        (readLike expr entries = .ok expr ↔ expr.depth ≤ deepestRecord) := by
  refine ⟨exists_toRecord expr, fun entries records => ?_⟩
  rw [Tree.depth_eq_height]
  cases records with
  | leaf x number bare =>
      have low : Tree.height (.leaf x : Expr) ≤ deepestRecord := by
        rw [Tree.height]
        decide
      have read : readLike (.leaf x) entries = .ok (.leaf x) := by
        show (numberMatch entries).map Match.expr = _
        rw [numberMatch_of_text number]
        rfl
      exact iff_of_true read low
  | @node _ first second left right op operator hleft hright recordsLeft recordsRight =>
      constructor
      · exact height_le_of_ofOperationRecord
      · intro fits
        rw [Tree.height] at fits
        have room : max left.height right.height ≤ deepestRecord - 1 := by omega
        obtain ⟨_, readLeft⟩ := operandOf_of_records recordsLeft ((le_max_left _ _).trans room)
        obtain ⟨_, readRight⟩ := operandOf_of_records recordsRight ((le_max_right _ _).trans room)
        obtain ⟨count, operation⟩ :=
          exists_operationMatch operator hleft hright readLeft readRight
        show (operationMatch _ entries).map Match.expr = _
        rw [operation]
        rfl

/-- What is no number divided by a negative zero, with entries that do not matter: a comment at a
number, and an operation with a text besides it that denotes no number. -/
theorem readLike_eq_ok_quotient :
    Records
        [("value", .text "ten"), ("op", .text "/"),
          ("left", .table [("comment", .array []), ("value", .text "nan")]),
          ("right", .table [("value", .text "-0.0")])]
        (.node .divide (.leaf .nan) (.leaf Binary64.zero.neg)) ∧
      ofOperationRecord
          [("value", .text "ten"), ("op", .text "/"),
            ("left", .table [("comment", .array []), ("value", .text "nan")]),
            ("right", .table [("value", .text "-0.0")])] =
        .ok (.node .divide (.leaf .nan) (.leaf Binary64.zero.neg)) := by
  have zero : Binary64.zero.neg.text = "-0.0" := by decide +kernel
  have nan : Binary64.nan.text = "nan" := by decide
  have records : Records
      [("value", .text "ten"), ("op", .text "/"),
        ("left", .table [("comment", .array []), ("value", .text "nan")]),
        ("right", .table [("value", .text "-0.0")])]
      (.node .divide (.leaf .nan) (.leaf Binary64.zero.neg)) := by
    refine .node .divide rfl rfl rfl (.leaf .nan ?_ ?_) (.leaf _ ?_ ?_)
    · rw [nan]
      rfl
    · simp [operationKeys, Table.get?]
    · rw [zero]
      rfl
    · simp [operationKeys, Table.get?]
  refine ⟨records, ((readLike_eq_ok_iff_depth_le _).2 _ records).mpr ?_⟩
  rw [Tree.depth_eq_height]
  decide

/-- The record of a tower, with a number besides each operation. -/
def markedTower : (operations : Nat) → Table
  | 0 => [("value", .text Binary64.one.text)]
  | operations + 1 =>
      [("op", .text "+"), ("left", .table (markedTower operations)),
        ("right", .table [("value", .text Binary64.one.text)]), ("value", .text "9.5")]

/-- The number besides the operations does not matter for what is recorded. -/
lemma records_markedTower (operations : Nat) :
    Records (markedTower operations) (tower operations) := by
  have one : Records [("value", .text Binary64.one.text)] (.leaf .one) := by
    refine .leaf .one rfl ?_
    simp [operationKeys, Table.get?]
  induction operations with
  | zero => exact one
  | succ operations ih => exact .node .plus rfl rfl rfl ih one

/-- A tower of 255 operations is too deep: its record is read as another expression, if as any. -/
theorem readLike_ne_ok_tower :
    Records (markedTower 255) (tower 255) ∧
      ofOperationRecord (markedTower 255) ≠ .ok (tower 255) := by
  refine ⟨records_markedTower 255, fun read => ?_⟩
  have bound := height_le_of_ofOperationRecord read
  rw [height_tower] at bound
  exact absurd bound (by decide)

end Expr

end Calculator
