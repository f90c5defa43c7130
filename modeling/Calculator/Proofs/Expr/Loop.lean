import Mathlib.Logic.Relation
import Mathlib.Tactic.Common
import Calculator.Calculation

/-!
# The evaluation loop

The loop of the evaluation, taken one step at a time. A state is a stack of pending tasks with a
stack of values (`Loop`), `Loop.step` does the topmost task, and `Loop.Reaches` is any number of steps
that succeed.

A step changes nothing about what the loop comes to (`Loop.run_of_step`), so neither does any number
of them (`Loop.run_of_reaches`): what the loop comes to from a reached state is what it comes to from
the tree alone, and of that `Tree.run_singleton` leaves two possibilities, one value or a failure of
the tree. Hence no reached state is about to underflow, and none is out of tasks with another number
of values.

The other side of the main statement, `evaluate_eq_outcome`, is the structural recursion over a draft,
with the reports in words (`Draft.outcome`).
-/

namespace Calculator

/-! ## Outcomes by recursion -/

/-- The report that an evaluation ends with. -/
def evalError (message : String) : Diagnostic :=
  ⟨.evaluation, message, none⟩

/-- What becomes of a draft: the left operand, then the right one, then the operator, and the first
failure on that way. -/
def Draft.outcome : Draft → Except Diagnostic Binary64
  | .leaf value => .ok value
  | .foreign typeName => .error (evalError ("unknown node: " ++ typeName))
  | .node op left right =>
      match Draft.outcome left with
      | .error report => .error report
      | .ok x =>
          match Draft.outcome right with
          | .error report => .error report
          | .ok y =>
              if op = "+" then .ok (x.add y)
              else if op = "-" then .ok (x.sub y)
              else if op = "*" then .ok (x.mul y)
              else if op = "/" then .ok (x.div y)
              else .error (evalError ("unknown operator: " ++ Text.quote op))

/-- A text stands for an operator exactly if it is the written form of the operator. -/
lemma Operator.ofText?_eq_some_iff {text : String} {op : Operator} :
    ofText? text = some op ↔ text = op.text := by
  have single : text = op.text ↔ text.toList = [op.symbol] := by
    rw [← String.toList_inj]
    simp [Operator.text]
  rw [single, ofText?]
  split
  · rename_i c hc
    rw [ofSymbol?_eq_some_iff, hc, List.singleton_inj]
  · rename_i hother
    constructor
    · exact fun h => nomatch h
    · exact fun h => absurd h (hother _)

/-- The operators of drafts, by their texts. -/
lemma Draft.apply_eq (op : String) (x y : Binary64) :
    (Draft.rules.apply op x y).mapError EvalFault.diagnostic =
      if op = "+" then .ok (x.add y)
      else if op = "-" then .ok (x.sub y)
      else if op = "*" then .ok (x.mul y)
      else if op = "/" then .ok (x.div y)
      else .error (evalError ("unknown operator: " ++ Text.quote op)) := by
  have known : ∀ op' : Operator, op = op'.text →
      (Draft.rules.apply op x y).mapError EvalFault.diagnostic = .ok (op'.apply x y) := by
    intro op' h
    rw [Draft.rules]
    simp only [Operator.ofText?_eq_some_iff.mpr h]
    rfl
  split_ifs with hplus hminus htimes hdivide
  · exact known .plus hplus
  · exact known .minus hminus
  · exact known .times htimes
  · exact known .divide hdivide
  · have unknown : Operator.ofText? op = none := by
      rw [Option.eq_none_iff_forall_ne_some]
      intro op' h
      have text := Operator.ofText?_eq_some_iff.mp h
      cases op' <;> contradiction
    rw [Draft.rules]
    simp only [unknown]
    rfl

/-- The value of a draft is its outcome, with the failure as it is reported. -/
lemma Draft.value_eq_outcome (t : Draft) :
    (t.value Draft.rules).mapError EvalFault.diagnostic = t.outcome := by
  induction t with
  | leaf value => rfl
  | foreign typeName => rfl
  | node op left right ihl ihr =>
      rw [outcome, ← ihl, ← ihr, Tree.value]
      cases left.value Draft.rules with
      | error fault => rfl
      | ok x =>
          cases right.value Draft.rules with
          | error fault => rfl
          | ok y => exact Draft.apply_eq op x y

/-! ## The loop, step by step -/

/-- A state of the loop. -/
structure Loop (Op Foreign : Type) where
  /-- What is pending, the next task first. -/
  tasks : List (Task Op Foreign)
  /-- The values computed so far, topmost first. -/
  values : List Binary64

namespace Loop

variable {Op Foreign : Type} (rules : Rules Op Foreign)

/-- The state before any work on a tree. -/
def start (t : Tree Op Foreign) : Loop Op Foreign :=
  ⟨[.visit t], []⟩

/-- One step of the loop: the next task is done. A state without tasks stays as it is. -/
def step : Loop Op Foreign → Except Halt (Loop Op Foreign)
  | ⟨[], values⟩ => .ok ⟨[], values⟩
  | ⟨.visit (.leaf value) :: tasks, values⟩ => .ok ⟨tasks, value :: values⟩
  | ⟨.visit (.foreign item) :: _, _⟩ => .error (.fault (rules.reject item))
  | ⟨.visit (.node op left right) :: tasks, values⟩ =>
      .ok ⟨.visit left :: .visit right :: .combine op :: tasks, values⟩
  | ⟨.combine op :: tasks, y :: x :: values⟩ =>
      match rules.apply op x y with
      | .ok value => .ok ⟨tasks, value :: values⟩
      | .error fault => .error (.fault fault)
  | ⟨.combine _ :: _, _⟩ => .error .underflow

/-- One state comes after another in any number of steps. -/
def Reaches : Loop Op Foreign → Loop Op Foreign → Prop :=
  Relation.ReflTransGen fun before behind => before.step rules = .ok behind

variable {rules}

/-- A step that succeeds leaves what the loop comes to as it is. -/
lemma run_of_step {before behind : Loop Op Foreign} (h : before.step rules = .ok behind) :
    Tree.run rules before.tasks before.values = Tree.run rules behind.tasks behind.values := by
  unfold step at h
  split at h
  · cases h
    rfl
  · cases h
    rw [Tree.run]
  · cases h
  · cases h
    rw [Tree.run]
  · split at h <;> cases h
    rename_i happly
    rw [Tree.run, happly]
  · cases h

/-- A step that fails is what the loop comes to. -/
lemma run_of_step_error {state : Loop Op Foreign} {halt : Halt}
    (h : state.step rules = .error halt) :
    Tree.run rules state.tasks state.values = .error halt := by
  unfold step at h
  split at h
  · cases h
  · cases h
  · cases h
    rw [Tree.run]
  · cases h
  · split at h <;> cases h
    rename_i happly
    rw [Tree.run, happly]
  · rename_i op tasks values hshort
    cases h
    rcases values with _ | ⟨y, _ | ⟨x, values⟩⟩
    · rw [Tree.run]
      simp
    · rw [Tree.run]
      simp
    · exact absurd rfl (hshort y x values)

/-- Any number of steps leaves what the loop comes to as it is. -/
lemma run_of_reaches {before behind : Loop Op Foreign} (h : Reaches rules before behind) :
    Tree.run rules before.tasks before.values = Tree.run rules behind.tasks behind.values := by
  induction h with
  | refl => rfl
  | tail _ hstep ih => rw [ih, run_of_step hstep]

/-- The stack of values is never too short for the next task. -/
lemma step_ne_underflow {t : Tree Op Foreign} {state : Loop Op Foreign}
    (h : Reaches rules (start t) state) : state.step rules ≠ .error .underflow := by
  intro hshort
  have whole := run_of_reaches h
  rw [run_of_step_error hshort, start, Tree.run_singleton] at whole
  split at whole <;> cases whole

/-- Out of tasks, the loop has the value of the tree and nothing else. -/
lemma values_of_reaches {t : Tree Op Foreign} {state : Loop Op Foreign}
    (h : Reaches rules (start t) state) (hdone : state.tasks = []) :
    ∃ value, state.values = [value] ∧ t.value rules = .ok value := by
  have whole := run_of_reaches h
  rw [hdone, start, Tree.run_singleton, Tree.run] at whole
  split at whole
  · rename_i value hvalue
    exact ⟨value, (Except.ok.inj whole).symm, hvalue⟩
  · cases whole

end Loop

/-- **The loop computes the outcome**: of every draft, whatever its operators and whatever foreign
values it holds, it gives the number or the report that the structural recursion gives. No state on
the way is about to underflow, and out of tasks there is one value. -/
theorem evaluate_eq_outcome (t : Draft) :
    (t.evaluate Draft.rules).mapError EvalFault.diagnostic = t.outcome ∧
      ∀ state : Loop String String, Loop.Reaches Draft.rules (Loop.start t) state →
        state.step Draft.rules ≠ .error .underflow ∧
          (state.tasks = [] → ∃ value, state.values = [value] ∧ t.outcome = .ok value) := by
  refine ⟨?_, fun state hstate => ⟨Loop.step_ne_underflow hstate, fun hdone => ?_⟩⟩
  · rw [Tree.evaluate_eq_value, Draft.value_eq_outcome]
  · obtain ⟨value, hvalues, hvalue⟩ := Loop.values_of_reaches hstate hdone
    refine ⟨value, hvalues, ?_⟩
    rw [← Draft.value_eq_outcome, hvalue]
    rfl

/-- Of two failures the one that comes first is reported, and a sum that is done has left one value. -/
theorem evaluate_failures :
    ((Tree.node "^" (.leaf .one) (.foreign "str")).evaluate Draft.rules).mapError
        EvalFault.diagnostic = .error (evalError "unknown node: str") ∧
      ∃ value, [Binary64.one.add .one] = [value] ∧
        Draft.outcome (.node "+" (.leaf .one) (.leaf .one)) = .ok value := by
  constructor
  · rw [(evaluate_eq_outcome _).1]
    rfl
  · have reached : Loop.Reaches Draft.rules (Loop.start (.node "+" (.leaf .one) (.leaf .one)))
        ⟨[], [Binary64.one.add .one]⟩ :=
      .head rfl (.head rfl (.head rfl (.head rfl .refl)))
    exact ((evaluate_eq_outcome _).2 _ reached).2 rfl

end Calculator
