import Mathlib.Algebra.GroupWithZero.Nat
import Mathlib.Tactic.Common
import Calculator.Expr.Walk

/-!
# The walks keep to the recursion

The three walks over a tree are loops over a stack of pending work. What a loop has in hand, together
with all that is still pending, stays the same from one step to the next:

* the nodes counted and the nodes of the pending trees (`Tree.countPending_eq`);
* the deepest level seen and the lowest levels of the pending trees (`Tree.deepestPending_eq`);
* the text written and the texts of the pending pieces (`Expr.renderPending_eq`).

A walk starts with one tree on its stack and nothing in hand, so it comes to what the recursion over
the tree gives (`Tree.nodeCount_eq_size`, `Tree.depth_eq_height`, `Expr.render_eq_parenthesized`).
`walks_recursive` says this without the recursive functions: each walk of an operation is put together
from the walks of its operands.
-/

namespace Calculator

namespace Tree

variable {Op Foreign : Type}

/-! ## Nodes -/

/-- Whatever is pending, its nodes are added to the count. -/
lemma countPending_eq (pending : List (Tree Op Foreign)) (count : Nat) :
    countPending pending count = count + (pending.map size).sum := by
  induction pending generalizing count with
  | nil => rw [countPending, List.map_nil, List.sum_nil, Nat.add_zero]
  | cons t pending ih =>
      rw [countPending_cons, ih, List.map_cons, List.sum_cons, Nat.add_assoc]

/-- The nodes are counted. -/
lemma nodeCount_eq_size (t : Tree Op Foreign) : t.nodeCount = t.size := by
  rw [nodeCount, countPending_eq, List.map_singleton, List.sum_singleton, Nat.zero_add]

/-! ## Levels -/

/-- A tree has a longest path. -/
lemma height_pos (t : Tree Op Foreign) : 0 < t.height := by
  cases t <;> simp only [height] <;> omega

/-- The lowest level that a pending tree reaches down to from the level of its root. -/
def lowest (entry : Tree Op Foreign × Nat) : Nat :=
  entry.2 + entry.1.height - 1

/-- Whatever is pending, its lowest levels compete with the deepest one so far. -/
lemma deepestPending_eq (pending : List (Tree Op Foreign × Nat)) (deepest : Nat) :
    deepestPending pending deepest = (pending.map lowest).foldl max deepest := by
  induction pending generalizing deepest with
  | nil => rw [deepestPending, List.map_nil, List.foldl_nil]
  | cons entry pending ih => rw [deepestPending_cons, ih, List.map_cons, List.foldl_cons, lowest]

/-- The depth is the height. -/
lemma depth_eq_height (t : Tree Op Foreign) : t.depth = t.height := by
  rw [depth, deepestPending_eq, List.map_singleton, List.foldl_cons, List.foldl_nil, Nat.zero_max]
  exact Nat.add_sub_cancel_left 1 t.height

end Tree

namespace Expr

/-! ## Texts -/

/-- Whatever is pending, its texts are written in their order behind the text so far. -/
lemma renderPending_eq (pending : List Piece) (out : String) :
    renderPending pending out = out ++ String.join (pending.map Piece.text) := by
  induction pending generalizing out with
  | nil => rw [renderPending, List.map_nil, String.join_nil, String.append_empty]
  | cons piece pending ih =>
      rw [List.map_cons, String.join_cons, ← String.append_assoc]
      cases piece with
      | copy text => rw [renderPending, ih, Piece.text]
      | write expr => rw [renderPending_write, ih, Piece.text]

/-- An expression is written by the loop as by the recursion. -/
lemma render_eq_parenthesized (expr : Expr) : expr.render = expr.parenthesized := by
  rw [render, renderPending_eq, List.map_singleton, String.empty_append, String.join_cons,
    String.join_nil, String.append_empty, Piece.text]

end Expr

/-- **The walks keep to the recursion.** A number and a foreign value are one node, of depth one. An
operation has one node more than its operands have together, and is one level deeper than the deeper
one. A number is written in plain form, and an operation as its operands with the operator between
them, in parentheses. -/
theorem walks_recursive :
    (∀ (Op Foreign : Type) (t : Tree Op Foreign),
      t.nodeCount = (match t with
        | .leaf _ | .foreign _ => 1
        | .node _ left right => 1 + left.nodeCount + right.nodeCount) ∧
      t.depth = match t with
        | .leaf _ | .foreign _ => 1
        | .node _ left right => 1 + max left.depth right.depth) ∧
    ∀ expr : Expr, expr.render = match expr with
      | .leaf value => value.text
      | .node op left right =>
          "(" ++ Expr.render left ++ (" " ++ op.text ++ " ") ++ Expr.render right ++ ")"
      | .foreign item => item.elim := by
  constructor
  · intro Op Foreign t
    cases t with
    | leaf value => exact ⟨Tree.nodeCount_eq_size _, Tree.depth_eq_height _⟩
    | foreign item => exact ⟨Tree.nodeCount_eq_size _, Tree.depth_eq_height _⟩
    | node op left right =>
        simp only [Tree.nodeCount_eq_size, Tree.depth_eq_height]
        exact ⟨rfl, rfl⟩
  · intro expr
    cases expr with
    | leaf value => exact Expr.render_eq_parenthesized _
    | foreign item => exact item.elim
    | node op left right =>
        simp only [Expr.render_eq_parenthesized]
        rfl

end Calculator
