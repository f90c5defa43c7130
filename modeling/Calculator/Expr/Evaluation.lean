import Calculator.Expr.Basic
import Calculator.Text.Quoted

/-!
# Evaluation

The value of a tree is found by evaluating the left subtree, then the right one, and then applying
the operator; the first failure on that way is the failure of the whole (`Tree.value`).

What runs is a loop with two stacks, one of pending tasks and one of values (`Tree.run`), so that a
long chain takes no recursion. The loop could in principle find its stack of values too short
(`Halt.underflow`). `Tree.run_visit` says that it never does: a pending tree leaves exactly its
value on the stack, and everything below it alone. `Tree.evaluate` is the loop with that possibility
discharged, and `Tree.evaluate_eq_value` says that it computes the value.

A tree that the parser built has no failure at all (`Expr.evaluate_eq_ok`).
-/

namespace Calculator

/-- Why a tree has no value. -/
inductive EvalFault
  /-- A foreign value was reached; only its type is known. -/
  | unknownNode (typeName : String)
  /-- The operands have values, but the operator between them is not one of the four. -/
  | unknownOperator (op : String)
deriving DecidableEq

/-- The text of a failure. -/
def EvalFault.message : EvalFault → String
  | .unknownNode typeName => "unknown node: " ++ typeName
  | .unknownOperator op => "unknown operator: " ++ Text.quote op

/-- How a kind of tree is evaluated at its nodes. -/
structure Rules (Op Foreign : Type) where
  /-- What an operator does to the values of its operands. -/
  apply : Op → Binary64 → Binary64 → Except EvalFault Binary64
  /-- Why a foreign value has no value. -/
  reject : Foreign → EvalFault

/-- An expression knows its four operators and holds nothing foreign. -/
def Expr.rules : Rules Operator Empty where
  apply op x y := .ok (op.apply x y)
  reject item := item.elim

/-- A draft may hold operators that are not known, and foreign values. -/
def Draft.rules : Rules String String where
  apply op x y :=
    match Operator.ofText? op with
    | some known => .ok (known.apply x y)
    | none => .error (.unknownOperator op)
  reject typeName := .unknownNode typeName

/-- Why the loop stopped before its work was done. -/
inductive Halt
  /-- The tree has no value. -/
  | fault (cause : EvalFault)
  /-- The stack of values was too short for an operator. -/
  | underflow
deriving DecidableEq

/-- A pending task. -/
inductive Task (Op Foreign : Type)
  /-- Push the value of a tree. -/
  | visit (tree : Tree Op Foreign)
  /-- Replace the two topmost values by the result of an operator. -/
  | combine (op : Op)

/-- What a task adds to the pending work. -/
def Task.weight {Op Foreign : Type} : Task Op Foreign → Nat
  | visit tree => 2 * tree.size
  | combine _ => 1

namespace Tree

variable {Op Foreign : Type}

/-- The value of a tree: left, then right, then the operator. -/
def value (rules : Rules Op Foreign) : Tree Op Foreign → Except EvalFault Binary64
  | leaf value => .ok value
  | node op left right =>
      match left.value rules with
      | .error fault => .error fault
      | .ok x =>
          match right.value rules with
          | .error fault => .error fault
          | .ok y => rules.apply op x y
  | foreign item => .error (rules.reject item)

/-- The loop: do the pending tasks one after another and answer with the stack of values, topmost
first. -/
def run (rules : Rules Op Foreign) :
    (tasks : List (Task Op Foreign)) → (values : List Binary64) → Except Halt (List Binary64)
  | [], values => .ok values
  | .visit (leaf value) :: tasks, values => run rules tasks (value :: values)
  | .visit (foreign item) :: _, _ => .error (.fault (rules.reject item))
  | .visit (node op left right) :: tasks, values =>
      run rules (.visit left :: .visit right :: .combine op :: tasks) values
  | .combine op :: tasks, y :: x :: values =>
      match rules.apply op x y with
      | .ok value => run rules tasks (value :: values)
      | .error fault => .error (.fault fault)
  | .combine _ :: _, _ => .error .underflow
termination_by tasks => tasks.foldr (fun task more => task.weight + more) 0
decreasing_by all_goals simp only [List.foldr_cons, Task.weight, size]; omega

/-- A pending tree pushes its value, or stops the loop with the failure that the tree has. -/
theorem run_visit (rules : Rules Op Foreign) (t : Tree Op Foreign) (tasks : List (Task Op Foreign))
    (values : List Binary64) :
    run rules (.visit t :: tasks) values =
      match t.value rules with
      | .ok v => run rules tasks (v :: values)
      | .error fault => .error (.fault fault) := by
  induction t generalizing tasks values with
  | leaf v => rw [run, value]
  | foreign item => rw [run, value]
  | node op left right ihl ihr =>
      rw [run, ihl, value]
      cases left.value rules with
      | error fault => rfl
      | ok x =>
          simp only [ihr]
          cases right.value rules with
          | error fault => rfl
          | ok y => simp only [run]

/-- A run on one tree ends with exactly its value on the stack. -/
theorem run_singleton (rules : Rules Op Foreign) (t : Tree Op Foreign) :
    run rules [.visit t] [] =
      match t.value rules with
      | .ok v => .ok [v]
      | .error fault => .error (.fault fault) := by
  rw [run_visit]
  cases t.value rules <;> simp [run]

/-- The value of a tree, computed by the loop. -/
def evaluate (rules : Rules Op Foreign) (t : Tree Op Foreign) : Except EvalFault Binary64 :=
  match h : run rules [.visit t] [] with
  | .ok [v] => .ok v
  | .error (.fault fault) => .error fault
  | .ok [] => absurd h (by rw [run_singleton]; cases t.value rules <;> simp)
  | .ok (_ :: _ :: _) => absurd h (by rw [run_singleton]; cases t.value rules <;> simp)
  | .error .underflow => absurd h (by rw [run_singleton]; cases t.value rules <;> simp)

/-- The loop computes the value. -/
theorem evaluate_eq_value (rules : Rules Op Foreign) (t : Tree Op Foreign) :
    t.evaluate rules = t.value rules := by
  have single := run_singleton rules t
  unfold evaluate
  split <;> rename_i h <;> rw [single] at h <;> cases hv : t.value rules <;> simp_all

end Tree

namespace Expr

/-- The value of an expression. -/
def meaning : Expr → Binary64
  | .leaf value => value
  | .node op left right => op.apply (meaning left) (meaning right)
  | .foreign item => item.elim

/-- An expression has a value. -/
theorem value_eq_ok (expr : Expr) : expr.value rules = .ok (meaning expr) := by
  induction expr with
  | leaf value => rfl
  | foreign item => exact item.elim
  | node op left right ihl ihr =>
      simp only [Tree.value, ihl, ihr]
      rfl

/-- An expression evaluates without failure. -/
theorem evaluate_eq_ok (expr : Expr) : expr.evaluate rules = .ok (meaning expr) := by
  rw [Tree.evaluate_eq_value, value_eq_ok]

end Expr

end Calculator
