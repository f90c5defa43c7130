import Calculator.Document.Value

/-!
# A growing settings file

While a settings file is read, its tables are still growing, and what may still be added to a table
depends on how it came about. A growing document is therefore made of nodes that remember it
(`Node`).

* A **fixed** node is a value that was written out. Nothing can be added to it, also where it is a
  table or an array.
* A **table** node has a standing. It is *implied* where it only lies on the way to another table.
  It is *declared* once a header names it, and then no header may name it again and no dotted key
  may lead through it. A dotted key makes a table *dotted* under the header it stands under: later
  keys there may lead through the table, and below a later header nothing may declare it or lead a
  dotted key through it.
* A **list** node is an array of tables. Whatever leads through it leads into its last table.

`declare?` and `append?` are the two kinds of header, and `assign?` is a line with a key and a
value. Each is `none` where the file contradicts itself.
-/

namespace Calculator.Toml

open Document

/-- How a table came about. -/
inductive Standing
  /-- It lies on the way to another table. -/
  | implied
  /-- A header names it. -/
  | declared
  /-- A dotted key leads through it that stands under the header of the given number. -/
  | dotted (header : Nat)
deriving DecidableEq

/-- A part of a growing document. -/
inductive Node
  /-- A value that was written out. -/
  | fixed (value : Value)
  /-- A table. -/
  | table (standing : Standing) (entries : List (String × Node))
  /-- An array of tables: the last one, and those before it, last first. -/
  | list (last : List (String × Node)) (before : List (List (String × Node)))

/-- The entries of a growing table. -/
abbrev Entries := List (String × Node)

namespace Entries

/-- The node of a key. -/
def get? (entries : Entries) (key : String) : Option Node :=
  (entries.find? fun entry => entry.1 = key).map Prod.snd

/-- The entries with a node for a key: in the place of the old node, or behind all others. -/
def put (entries : Entries) (key : String) (node : Node) : Entries :=
  match entries with
  | [] => [(key, node)]
  | entry :: rest =>
      if entry.1 = key then (key, node) :: rest else entry :: Entries.put rest key node

/-- A change to the table that the first names of a key lead to. Tables on the way are implied where
they are missing, and a fixed value on the way bars it. -/
def within? (change : Entries → Option Entries) : (way : List String) → Entries → Option Entries
  | [], entries => change entries
  | name :: way, entries => do
      match entries.get? name with
      | none =>
          let inner ← within? change way []
          some (entries.put name (.table .implied inner))
      | some (.table standing inner) =>
          let inner ← within? change way inner
          some (entries.put name (.table standing inner))
      | some (.list last before) =>
          let last ← within? change way last
          some (entries.put name (.list last before))
      | some (.fixed _) => none

/-- Declare the table of a name. -/
def declareHere? (name : String) (entries : Entries) : Option Entries :=
  match entries.get? name with
  | none => some (entries.put name (.table .declared []))
  | some (.table .implied inner) => some (entries.put name (.table .declared inner))
  | some _ => none

/-- Append a table to the array of a name. -/
def appendHere? (name : String) (entries : Entries) : Option Entries :=
  match entries.get? name with
  | none => some (entries.put name (.list [] []))
  | some (.list last before) => some (entries.put name (.list [] (last :: before)))
  | some _ => none

/-- Assign a value to a key, under the header of the given number. -/
def assignHere? (header : Nat) (value : Value) : (key : List String) → Entries → Option Entries
  | [], _ => none
  | [name], entries =>
      match entries.get? name with
      | none => some (entries.put name (.fixed value))
      | some _ => none
  | name :: key, entries => do
      match entries.get? name with
      | none =>
          let inner ← assignHere? header value key []
          some (entries.put name (.table (.dotted header) inner))
      | some (.table standing inner) =>
          if standing = .implied ∨ standing = .dotted header then
            let inner ← assignHere? header value key inner
            some (entries.put name (.table (.dotted header) inner))
          else none
      | some _ => none

/-- A change at the last name of a key, in the table that the names before it lead to. -/
def atLast? (change : String → Entries → Option Entries) (key : List String) (entries : Entries) :
    Option Entries :=
  match key.getLast? with
  | none => none
  | some name => within? (change name) key.dropLast entries

/-- The header of a table. -/
def declare? (key : List String) (entries : Entries) : Option Entries :=
  atLast? declareHere? key entries

/-- The header of a table in an array of tables. -/
def append? (key : List String) (entries : Entries) : Option Entries :=
  atLast? appendHere? key entries

/-- A line with a key and a value, in the table that the header above it leads to. -/
def assign? (header : Nat) (way key : List String) (value : Value) (entries : Entries) :
    Option Entries :=
  within? (assignHere? header value key) way entries

end Entries

/-! ## The document when it is complete -/

mutual

/-- The value of a node. -/
def Node.value : Node → Value
  | .fixed value => value
  | .table _ entries => .table (valuesOf entries)
  | .list last before => .array (tablesOf before [.table (valuesOf last)])

/-- The values of the entries of a table. -/
def valuesOf : List (String × Node) → Table
  | [] => []
  | (key, node) :: rest => (key, node.value) :: valuesOf rest

/-- Tables that are given last first, in order, before those that are in order. -/
def tablesOf : List (List (String × Node)) → List Value → List Value
  | [], later => later
  | entries :: before, later => tablesOf before (.table (valuesOf entries) :: later)

end

end Calculator.Toml
