import Calculator.Binary64.Arithmetic
import Calculator.Decimal.Layout

/-!
# Expression trees

A tree has numbers at its leaves and a binary operator at each inner node. Two kinds of tree share
the type `Tree`:

* an **expression** (`Expr`) has the four arithmetic operators and nothing but numbers at its
  leaves; this is what the parser builds;
* a **draft** (`Draft`) is put together by hand: its operators are arbitrary texts, and a subtree
  may be a foreign value, of which only the name of its type is known.

The number of nodes and the height are defined for both by recursion on the tree (`Tree.size`,
`Tree.height`), and so is the written form of an expression (`Expr.parenthesized`).
-/

namespace Calculator

/-! ## Operators -/

/-- An arithmetic operator. -/
inductive Operator
  | plus
  | minus
  | times
  | divide
deriving DecidableEq

namespace Operator

/-- The character that an operator is written with. -/
def symbol : Operator → Char
  | plus => '+'
  | minus => '-'
  | times => '*'
  | divide => '/'

/-- The operator that a character stands for. -/
def ofSymbol? (c : Char) : Option Operator :=
  if c = '+' then some plus
  else if c = '-' then some minus
  else if c = '*' then some times
  else if c = '/' then some divide
  else none

/-- Exactly the symbol of an operator stands for it. -/
theorem ofSymbol?_eq_some_iff {c : Char} {op : Operator} :
    ofSymbol? c = some op ↔ c = op.symbol := by
  constructor
  · intro h
    simp only [ofSymbol?] at h
    repeat' split at h
    all_goals cases h <;> assumption
  · rintro rfl
    cases op <;> decide

/-- The operator that a text of one character stands for. -/
def ofText? (text : String) : Option Operator :=
  match text.toList with
  | [c] => ofSymbol? c
  | _ => none

/-- An operator as a text. -/
def text (op : Operator) : String :=
  String.singleton op.symbol

/-- What an operator does to its operands. -/
def apply : Operator → Binary64 → Binary64 → Binary64
  | plus => Binary64.add
  | minus => Binary64.sub
  | times => Binary64.mul
  | divide => Binary64.div

end Operator

/-! ## Trees -/

/-- A binary tree of numbers, with operators from `Op` and foreign values from `Foreign`. -/
inductive Tree (Op Foreign : Type)
  /-- A number. -/
  | leaf (value : Binary64)
  /-- An operator between two subtrees. -/
  | node (op : Op) (left right : Tree Op Foreign)
  /-- A value that is no tree. -/
  | foreign (item : Foreign)
deriving DecidableEq

/-- An expression: the four operators, and nothing foreign. -/
abbrev Expr := Tree Operator Empty

/-- A tree put together by hand: any text as an operator, and foreign values by the names of their
types. -/
abbrev Draft := Tree String String

namespace Tree

variable {Op Foreign : Type}

/-- How many nodes a tree has; a foreign value is one node. -/
def size : Tree Op Foreign → Nat
  | leaf _ => 1
  | node _ left right => 1 + left.size + right.size
  | foreign _ => 1

/-- How many nodes the longest path down a tree has; a foreign value is one node. -/
def height : Tree Op Foreign → Nat
  | leaf _ => 1
  | node _ left right => 1 + max left.height right.height
  | foreign _ => 1

/-- A tree has a node. -/
theorem size_pos (t : Tree Op Foreign) : 0 < t.size := by
  cases t <;> simp only [size] <;> omega

/-- A tree has at least as many nodes as its longest path. -/
theorem height_le_size (t : Tree Op Foreign) : t.height ≤ t.size := by
  induction t with
  | leaf _ => exact Nat.le_refl _
  | foreign _ => exact Nat.le_refl _
  | node op left right ihl ihr => simp only [height, size]; omega

end Tree

/-- The written form of an expression: every operation in parentheses. -/
def Expr.parenthesized : Expr → String
  | .leaf value => value.text
  | .node op left right =>
      "(" ++ Expr.parenthesized left ++ (" " ++ op.text ++ " ") ++ Expr.parenthesized right ++ ")"
  | .foreign item => item.elim

/-- The expression that a draft is, if all its operators are known and nothing in it is foreign. -/
def Draft.toExpr? : Draft → Option Expr
  | .leaf value => some (.leaf value)
  | .node op left right => do
      let left ← Draft.toExpr? left
      let right ← Draft.toExpr? right
      let op ← Operator.ofText? op
      some (.node op left right)
  | .foreign _ => none

end Calculator
