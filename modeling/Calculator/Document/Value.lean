import Calculator.Binary64.Basic

/-!
# Values of a document

A document is a tree of values: the settings file is one, and so is the record of an expression. A
table keeps its entries in the order in which their keys were first written.
-/

namespace Calculator.Document

/-- A value of a document. -/
inductive Value
  /-- The absence of a value. -/
  | null
  /-- A truth value. -/
  | boolean (b : Bool)
  /-- A whole number, of any size. -/
  | integer (n : Int)
  /-- A binary64 number. -/
  | float (x : Binary64)
  /-- A text. -/
  | text (s : String)
  /-- A date, a time of day or both. -/
  | moment
  /-- A sequence of values. -/
  | array (items : List Value)
  /-- Values by their keys. -/
  | table (entries : List (String × Value))

/-- The entries of a table. -/
abbrev Table := List (String × Value)

/-- The value of a key. -/
def Table.get? (entries : Table) (key : String) : Option Value :=
  (entries.find? fun entry => entry.1 = key).map Prod.snd

/-- The entries with a value for a key: in the place of the old value, or behind all others. -/
def Table.put (entries : Table) (key : String) (value : Value) : Table :=
  match entries with
  | [] => [(key, value)]
  | entry :: rest =>
      if entry.1 = key then (key, value) :: rest else entry :: Table.put rest key value

/-- A key has the value that was put there. -/
@[simp] theorem Table.get?_put_self (entries : Table) (key : String) (value : Value) :
    Table.get? (Table.put entries key value) key = some value := by
  induction entries with
  | nil => simp [put, get?]
  | cons entry rest ih =>
      simp only [put]
      split
      · simp [get?]
      · rename_i h
        simpa [get?, h] using ih

/-- Other keys keep their values. -/
theorem Table.get?_put_of_ne {entries : Table} {key other : String} {value : Value}
    (h : other ≠ key) :
    Table.get? (Table.put entries key value) other = Table.get? entries other := by
  induction entries with
  | nil => simp [put, get?, Ne.symm h]
  | cons entry rest ih =>
      simp only [put]
      split
      · rename_i he
        simp [get?, he, Ne.symm h]
      · by_cases ho : entry.1 = other
        · simp [get?, ho]
        · simpa [get?, ho] using ih

end Calculator.Document
