import Calculator.Expr.Basic

/-!
# Walks over a tree with a stack of pending work

A chain such as `1 + 1 + … + 1` is as deep as it is long. The walks that run are therefore loops
over a list of pending work, which takes constant space of its own per step: `Tree.nodeCount`,
`Tree.depth` and `Expr.render`. Each loop ends because the pending work shrinks in a measure read
off the trees (`Tree.size`).

What a loop does to one pending tree is stated beside it: `countPending_cons`,
`deepestPending_cons`, `renderPending_tree`.
-/

namespace Calculator

namespace Tree

variable {Op Foreign : Type}

/-! ## Counting nodes -/

/-- The number of nodes of all pending trees, added to `count`. -/
def countPending : (pending : List (Tree Op Foreign)) → (count : Nat) → Nat
  | [], count => count
  | leaf _ :: pending, count => countPending pending (count + 1)
  | foreign _ :: pending, count => countPending pending (count + 1)
  | node _ left right :: pending, count => countPending (right :: left :: pending) (count + 1)
termination_by pending => pending.foldr (fun tree more => tree.size + more) 0
decreasing_by all_goals simp only [List.foldr_cons, size]; omega

/-- The number of nodes of a tree. -/
def nodeCount (t : Tree Op Foreign) : Nat :=
  countPending [t] 0

/-- A pending tree adds its nodes. -/
theorem countPending_cons (t : Tree Op Foreign) (pending : List (Tree Op Foreign)) (count : Nat) :
    countPending (t :: pending) count = countPending pending (count + t.size) := by
  induction t generalizing pending count with
  | leaf _ => rw [countPending, size]
  | foreign _ => rw [countPending, size]
  | node op left right ihl ihr =>
      rw [countPending, ihr, ihl, size]
      congr 1
      omega

/-! ## Measuring depth -/

/-- The greatest level of a node of the pending trees, each given with the level of its root, or
`deepest` if that is greater. -/
def deepestPending : (pending : List (Tree Op Foreign × Nat)) → (deepest : Nat) → Nat
  | [], deepest => deepest
  | (leaf _, level) :: pending, deepest => deepestPending pending (max deepest level)
  | (foreign _, level) :: pending, deepest => deepestPending pending (max deepest level)
  | (node _ left right, level) :: pending, deepest =>
      deepestPending ((right, level + 1) :: (left, level + 1) :: pending) (max deepest level)
termination_by pending => pending.foldr (fun entry more => entry.1.size + more) 0
decreasing_by all_goals simp only [List.foldr_cons, size]; omega

/-- The depth of a tree; a lone leaf has depth one. -/
def depth (t : Tree Op Foreign) : Nat :=
  deepestPending [(t, 1)] 0

/-- A pending tree whose root is at some level reaches down to the end of its longest path. -/
theorem deepestPending_cons (entry : Tree Op Foreign × Nat) (pending : List (Tree Op Foreign × Nat))
    (deepest : Nat) :
    deepestPending (entry :: pending) deepest =
      deepestPending pending (max deepest (entry.2 + entry.1.height - 1)) := by
  obtain ⟨t, level⟩ := entry
  induction t generalizing level pending deepest with
  | leaf _ => rw [deepestPending, height, Nat.add_sub_cancel]
  | foreign _ => rw [deepestPending, height, Nat.add_sub_cancel]
  | node op left right ihl ihr =>
      rw [deepestPending, ihr, ihl]
      simp only [height]
      congr 1
      omega

end Tree

/-! ## Writing -/

/-- A piece of pending output: a text to copy or an expression to write. -/
inductive Piece
  /-- A text to copy. -/
  | copy (text : String)
  /-- An expression to write. -/
  | write (expr : Expr)

namespace Piece

/-- What a piece adds to the pending work. -/
def weight : Piece → Nat
  | copy _ => 1
  | write expr => 4 * expr.size

/-- The text of a piece. -/
def text : Piece → String
  | copy text => text
  | write expr => expr.parenthesized

end Piece

namespace Expr

/-- The pending pieces, written one after another behind `out`. -/
def renderPending : (pending : List Piece) → (out : String) → String
  | [], out => out
  | .copy text :: pending, out => renderPending pending (out ++ text)
  | .write (.leaf value) :: pending, out => renderPending pending (out ++ value.text)
  | .write (.node op left right) :: pending, out =>
      renderPending (.copy "(" :: .write left :: .copy (" " ++ op.text ++ " ") :: .write right ::
        .copy ")" :: pending) out
  | .write (.foreign item) :: _, _ => item.elim
termination_by pending => pending.foldr (fun piece more => piece.weight + more) 0
decreasing_by
  all_goals simp only [List.foldr_cons, Piece.weight, Tree.size]; omega

/-- An expression in writing, every operation in parentheses. -/
def render (expr : Expr) : String :=
  renderPending [.write expr] ""

/-- A pending expression adds its written form. -/
theorem renderPending_write (expr : Expr) (pending : List Piece) (out : String) :
    renderPending (.write expr :: pending) out =
      renderPending pending (out ++ expr.parenthesized) := by
  induction expr generalizing pending out with
  | leaf value => rw [renderPending, parenthesized]
  | foreign item => exact item.elim
  | node op left right ihl ihr =>
      rw [renderPending, renderPending, ihl, renderPending, ihr, renderPending, parenthesized]
      simp only [String.append_assoc]

end Expr

end Calculator
