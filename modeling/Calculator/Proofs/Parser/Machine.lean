import Mathlib.Logic.Relation
import Calculator.Proofs.Parser.Consumption

/-!
# The calls of the parser

The rules of the parser call each other. Here they are taken one call at a time: a state of the
machine is what is under way, the calls that wait for an answer (`Frame`), innermost first, and how
often a token has been consumed. `Machine.step` does what comes next, and `Machine.Reaches` is any
number of steps.

* **A call is answered as the rule answers**, with the same calls waiting (`Machine.reaches_answer`).
  So the machine halts, and since each state has one successor at most, every run ends there.
* **What waits is a chain of calls** (`Fits`): an expression waits for a term, a term for a factor, and
  a factor for the expression inside a group. So one expression more is active than groups are open
  (`Fits.count_expression`), and of groups there are 200 at most.
* Each token that is consumed was ahead, so as many are consumed and ahead together at any time
  (`Machine.Sound`). A step keeps this (`Machine.Sound.step`), and so does a run.

`parse_bounded` puts this together.
-/

namespace Calculator

/-- How many calls there are from a phrase out to the expression that it is part of. -/
def Phrase.calls : Phrase → Nat
  | .chain .sum => 1
  | .chain .product => 2
  | .factor => 3

namespace Parser

/-! ## The machine -/

/-- A call that waits for the answer of another one. -/
inductive Frame
  /-- The call for a whole input waits for its expression. -/
  | whole
  /-- A chain waits for its first operand. -/
  | first (level : Level)
  /-- A chain with a left part waits for the operand behind an operator. -/
  | link (level : Level) (op : Operator) (left : Expr)
  /-- A factor waits for the expression inside its group. -/
  | group

/-- What is under way. -/
inductive Moment
  /-- A rule is called. -/
  | call (phrase : Phrase) (p : Parser)
  /-- A chain with a left part looks for an operator. -/
  | loop (level : Level) (left : Expr) (p : Parser)
  /-- A call has ended: it returns, or it raises a fault. -/
  | answer (result : Except Stopped (Expr × Parser))

/-- The state of a parser in the middle of its work. -/
structure Machine where
  /-- What is under way. -/
  moment : Moment
  /-- The calls that wait, innermost first. -/
  waiting : List Frame
  /-- How often a token has been consumed, or has been about to be when the next one failed. -/
  advances : Nat

namespace Machine

/-- The call for a whole input has called the rule for an expression. -/
def initial (p : Parser) : Machine :=
  ⟨.call .expression p, [.whole], 0⟩

/-- A token is consumed, and it goes on; or the next one fails, and that is the answer. -/
def consuming (attempt : Except Stopped Parser) (further : Parser → Moment × List Frame)
    (waiting : List Frame) (advances : Nat) : Machine :=
  match attempt with
  | .error stopped => ⟨.answer (.error stopped), waiting, advances + 1⟩
  | .ok q => ⟨(further q).1, (further q).2, advances + 1⟩

/-- The rule for a factor. -/
def factor (p : Parser) (waiting : List Frame) (advances : Nat) : Machine :=
  match p.current.symbol with
  | .number value =>
      consuming p.advance (fun q => (.answer (.ok (.leaf value, q)), waiting)) waiting advances
  | .leftParen =>
      if maxNesting ≤ p.nesting then
        ⟨.answer (.error (p.complain .nestedTooDeeply)), waiting, advances⟩
      else
        consuming (advance { p with nesting := p.nesting + 1 })
          (fun q => (.call .expression q, .group :: waiting)) waiting advances
  | _ => ⟨.answer (.error (p.complain .unexpected)), waiting, advances⟩

/-- The loop of a chain. -/
def loop (level : Level) (left : Expr) (p : Parser) (waiting : List Frame) (advances : Nat) :
    Machine :=
  match p.operatorAt? level with
  | none => ⟨.answer (.ok (left, p)), waiting, advances⟩
  | some op =>
      consuming p.advance (fun q => (.call level.operand q, .link level op left :: waiting)) waiting
        advances

/-- A call that has waited goes on with the tree that was returned to it. -/
def resume (tree : Expr) (q : Parser) (waiting : List Frame) (advances : Nat) : Frame → Machine
  | .whole =>
      ⟨.answer (if q.current.isEnd || q.allowTrailing then .ok (tree, q)
        else .error (q.complain .trailing)), waiting, advances⟩
  | .first level => ⟨.loop level tree q, waiting, advances⟩
  | .link level op left => ⟨.loop level (.node op left tree) q, waiting, advances⟩
  | .group =>
      if q.current.symbol = .rightParen then
        consuming q.advance
          (fun r => (.answer (.ok (tree, { r with nesting := r.nesting - 1 })), waiting)) waiting
          advances
      else ⟨.answer (.error (q.complain .missingParenthesis)), waiting, advances⟩

/-- One step. With an answer and no call that waits for it the machine halts; a fault ends all calls
that wait. -/
def step : Machine → Option Machine
  | ⟨.call (.chain level) p, waiting, advances⟩ =>
      some ⟨.call level.operand p, .first level :: waiting, advances⟩
  | ⟨.call .factor p, waiting, advances⟩ => some (factor p waiting advances)
  | ⟨.loop level left p, waiting, advances⟩ => some (loop level left p waiting advances)
  | ⟨.answer _, [], _⟩ => none
  | ⟨.answer (.error stopped), _ :: waiting, advances⟩ =>
      some ⟨.answer (.error stopped), waiting, advances⟩
  | ⟨.answer (.ok (tree, q)), frame :: waiting, advances⟩ =>
      some (resume tree q waiting advances frame)

/-- One state comes after another in any number of steps. -/
def Reaches : Machine → Machine → Prop :=
  Relation.ReflTransGen fun before behind => before.step = some behind

/-- A run goes on behind a step. -/
lemma reaches_of_step {s t u : Machine} (h : s.step = some t) (later : Reaches t u) : Reaches s u :=
  Relation.ReflTransGen.head h later

/-- Where nothing is left to do behind a token, consuming it gives the answer. -/
lemma consuming_answer (attempt : Except Stopped Parser) (answer : Parser → Expr × Parser)
    (waiting : List Frame) (advances : Nat) :
    consuming attempt (fun q => (.answer (.ok (answer q)), waiting)) waiting advances =
      ⟨.answer (match attempt with
        | .error stopped => .error stopped
        | .ok q => .ok (answer q)), waiting, advances + 1⟩ := by
  cases attempt with
  | error stopped => rfl
  | ok q => rfl

/-! ## Answers -/

/-- A call comes to an answer, with the same calls waiting. -/
def Answers (moment : Moment) (result : Except Stopped (Expr × Parser)) : Prop :=
  ∀ waiting advances, ∃ advances',
    Reaches ⟨moment, waiting, advances⟩ ⟨.answer result, waiting, advances'⟩

/-- The call that waits is resumed with the tree, or ended by the fault. -/
lemma Answers.resumed {moment : Moment} {result : Except Stopped (Expr × Parser)}
    (h : Answers moment result) (frame : Frame) (waiting : List Frame) (advances : Nat) :
    ∃ advances', Reaches ⟨moment, frame :: waiting, advances⟩
      (match result with
        | .error stopped => ⟨.answer (.error stopped), waiting, advances'⟩
        | .ok (tree, q) => resume tree q waiting advances' frame) := by
  obtain ⟨advances', answered⟩ := h (frame :: waiting) advances
  refine ⟨advances', answered.tail ?_⟩
  cases result with
  | error stopped => rfl
  | ok answer => rfl

/-- The rule for a factor is answered, if the rule for the expression inside a group is. -/
lemma answers_factor (p : Parser)
    (inner : ∀ q, p.current.symbol = .leftParen →
      advance { p with nesting := p.nesting + 1 } = .ok q →
        Answers (.call .expression q) (read .expression q)) :
    Answers (.call .factor p) (read .factor p) := by
  intro waiting advances
  have called : step ⟨.call .factor p, waiting, advances⟩ = some (factor p waiting advances) := rfl
  unfold factor at called
  rw [read, factor_eq]
  cases hsymbol : p.current.symbol with
  | number value =>
      simp only [hsymbol] at called ⊢
      rw [consuming_answer] at called
      exact ⟨_, .single called⟩
  | leftParen =>
      simp only [hsymbol] at called ⊢
      split_ifs at called ⊢ with hfull
      · exact ⟨_, .single called⟩
      · cases hadvance : advance { p with nesting := p.nesting + 1 } with
        | error stopped =>
            rw [hadvance] at called
            exact ⟨_, .single called⟩
        | ok q =>
            rw [hadvance] at called
            obtain ⟨advances', later⟩ :=
              (inner q hsymbol hadvance).resumed .group waiting (advances + 1)
            have inside := reaches_of_step called later
            rw [read, ← expression] at inside
            simp only
            cases hexpression : q.expression with
            | error stopped =>
                rw [hexpression] at inside
                exact ⟨_, inside⟩
            | ok answer =>
                rw [hexpression] at inside
                simp only [resume] at inside ⊢
                split_ifs at inside ⊢ with hclose
                · rw [consuming_answer] at inside
                  exact ⟨_, inside⟩
                · exact ⟨_, inside⟩
  | operator _ | rightParen | endOfInput =>
      simp only [hsymbol] at called ⊢
      exact ⟨_, .single called⟩

/-- The rule for a chain is answered, if the rule for its operands and the loop behind the first one
are. -/
lemma answers_chain (level : Level) (p : Parser)
    (operand : Answers (.call level.operand p) (read level.operand p))
    (links : ∀ first q, read level.operand p = .ok (first, q) →
      Answers (.loop level first q) (more level first q)) :
    Answers (.call (.chain level) p) (read (.chain level) p) := by
  intro waiting advances
  obtain ⟨advances', resumed⟩ := operand.resumed (.first level) waiting advances
  have called : Reaches ⟨.call (.chain level) p, waiting, advances⟩ _ := reaches_of_step rfl resumed
  rw [read_chain]
  cases hread : read level.operand p with
  | error stopped =>
      rw [hread] at called
      exact ⟨_, called⟩
  | ok answer =>
      rw [hread] at called
      obtain ⟨advances'', later⟩ := links answer.1 answer.2 hread waiting advances'
      exact ⟨_, called.trans later⟩

/-- The loop of a chain is answered, if the operand of the next link and the loop behind it are. -/
lemma answers_more (level : Level) (left : Expr) (p : Parser)
    (link : ∀ op q, p.operatorAt? level = some op → p.advance = .ok q →
      Answers (.call level.operand q) (read level.operand q) ∧
        ∀ right r, read level.operand q = .ok (right, r) →
          Answers (.loop level (.node op left right) r) (more level (.node op left right) r)) :
    Answers (.loop level left p) (more level left p) := by
  intro waiting advances
  have looked : step ⟨.loop level left p, waiting, advances⟩ =
      some (loop level left p waiting advances) := rfl
  unfold loop at looked
  rw [more_eq]
  cases hop : p.operatorAt? level with
  | none =>
      simp only [hop] at looked
      exact ⟨_, .single looked⟩
  | some op =>
      simp only [hop] at looked
      cases hadvance : p.advance with
      | error stopped =>
          rw [hadvance] at looked
          exact ⟨_, .single looked⟩
      | ok q =>
          rw [hadvance] at looked
          obtain ⟨operand, further⟩ := link op q hop hadvance
          obtain ⟨advances', resumed⟩ :=
            operand.resumed (.link level op left) waiting (advances + 1)
          have called := reaches_of_step looked resumed
          simp only [operandOf_eq_read]
          cases hread : read level.operand q with
          | error stopped =>
              rw [hread] at called
              exact ⟨_, called⟩
          | ok answer =>
              rw [hread] at called
              obtain ⟨advances'', later⟩ := further answer.1 answer.2 hread waiting advances'
              exact ⟨_, called.trans later⟩

/-- **A call is answered as the rule answers**, whatever calls are waiting. -/
theorem reaches_answer (phrase : Phrase) (p : Parser) :
    Answers (.call phrase p) (read phrase p) :=
  (rules_induction (P := fun phrase p => Answers (.call phrase p) (read phrase p))
    (Q := fun level left p => Answers (.loop level left p) (more level left p))
    answers_factor answers_chain answers_more).1 phrase p

/-- The machine halts with the answer of the parser. -/
lemma reaches_parse (p : Parser) :
    ∃ advances, Reaches (initial p) ⟨.answer p.parse, [], advances⟩ := by
  obtain ⟨advances, reached⟩ := (reaches_answer .expression p).resumed .whole [] 0
  rw [read, ← expression] at reached
  refine ⟨advances, ?_⟩
  unfold parse
  cases hexpression : p.expression with
  | error stopped =>
      rw [hexpression] at reached
      exact reached
  | ok answer =>
      rw [hexpression] at reached
      exact reached

/-- Where a machine can halt, every run ends. -/
lemma reaches_of_halts {s t u : Machine} (h : Reaches s u) (halts : u.step = none)
    (h' : Reaches s t) : Reaches t u := by
  have unique : Relator.RightUnique fun before behind : Machine => before.step = some behind :=
    fun _ _ _ hb hc => Option.some.inj (hb.symm.trans hc)
  rcases Relation.ReflTransGen.total_of_right_unique unique h' h with later | beyond
  · exact later
  · cases Relation.ReflTransGen.cases_head beyond with
    | inl same => exact same ▸ .refl
    | inr further =>
        obtain ⟨v, hstep, -⟩ := further
        rw [halts] at hstep
        cases hstep

end Machine

/-! ## The calls that wait -/

/-- The rule of which a call waits; the one for a whole input is none of them. -/
def Frame.phrase? : Frame → Option Phrase
  | .whole => none
  | .first level => some (.chain level)
  | .link level _ _ => some (.chain level)
  | .group => some .factor

/-- The rules that wait, innermost first. -/
def callers (waiting : List Frame) : List Phrase :=
  waiting.filterMap Frame.phrase?

/-- How many factors wait, each for the expression inside its group. -/
def groups (waiting : List Frame) : Nat :=
  (callers waiting).count .factor

/-- The rule that is under way, unless it has been answered. -/
def Moment.phrase? : Moment → Option Phrase
  | .call phrase _ => some phrase
  | .loop level _ _ => some (.chain level)
  | .answer _ => none

/-- The rules that have been called and have not ended, innermost first. -/
def Machine.active (s : Machine) : List Phrase :=
  s.moment.phrase?.toList ++ callers s.waiting

/-- The calls that wait for a phrase: each of them waits for the one before it, out to the call for
the whole input. -/
inductive Fits : Phrase → List Frame → Prop
  /-- The whole input is an expression. -/
  | whole : Fits .expression [.whole]
  /-- A group holds an expression. -/
  | group {waiting : List Frame} (h : Fits .factor waiting) : Fits .expression (.group :: waiting)
  /-- A chain begins with an operand. -/
  | first {level : Level} {waiting : List Frame} (h : Fits (.chain level) waiting) :
      Fits level.operand (.first level :: waiting)
  /-- A chain goes on with an operand. -/
  | link {level : Level} {op : Operator} {left : Expr} {waiting : List Frame}
      (h : Fits (.chain level) waiting) : Fits level.operand (.link level op left :: waiting)

/-- A chain that waits opens no group. -/
@[simp] lemma groups_first (level : Level) (waiting : List Frame) :
    groups (.first level :: waiting) = groups waiting := by
  simp [groups, callers, Frame.phrase?]

/-- Neither does one that waits behind an operator. -/
@[simp] lemma groups_link (level : Level) (op : Operator) (left : Expr) (waiting : List Frame) :
    groups (.link level op left :: waiting) = groups waiting := by
  simp [groups, callers, Frame.phrase?]

/-- A factor that waits has opened a group. -/
@[simp] lemma groups_group (waiting : List Frame) :
    groups (.group :: waiting) = groups waiting + 1 := by
  simp [groups, callers, Frame.phrase?]

namespace Fits

variable {phrase : Phrase} {waiting : List Frame} {frame : Frame}

/-- The operands of a level are no expressions. -/
lemma count_operand (level : Level) (callers : List Phrase) :
    (level.operand :: callers).count .expression = callers.count .expression := by
  cases level <;> simp [Level.operand]

/-- **One expression more is active than groups are open.** -/
lemma count_expression (h : Fits phrase waiting) :
    (phrase :: callers waiting).count .expression = groups waiting + 1 := by
  induction h with
  | whole => rfl
  | @group waiting h ih =>
      have outer : callers (.group :: waiting) = .factor :: callers waiting := rfl
      rw [outer, List.count_cons_self, ih, groups_group]
  | @first level waiting h ih =>
      have outer : callers (.first level :: waiting) = .chain level :: callers waiting := rfl
      rw [outer, count_operand, ih, groups_first]
  | @link level op left waiting h ih =>
      have outer : callers (.link level op left :: waiting) = .chain level :: callers waiting := rfl
      rw [outer, count_operand, ih, groups_link]

/-- For each open group three calls are active: of an expression, a term and a factor. -/
lemma length_callers (h : Fits phrase waiting) :
    (phrase :: callers waiting).length = 3 * groups waiting + phrase.calls := by
  induction h with
  | whole => rfl
  | @group waiting h ih =>
      have outer : callers (.group :: waiting) = .factor :: callers waiting := rfl
      rw [outer, List.length_cons, ih, groups_group, Phrase.calls, Phrase.calls]
      omega
  | @first level waiting h ih =>
      have outer : callers (.first level :: waiting) = .chain level :: callers waiting := rfl
      rw [outer, List.length_cons, ih, groups_first]
      cases level <;> rfl
  | @link level op left waiting h ih =>
      have outer : callers (.link level op left :: waiting) = .chain level :: callers waiting := rfl
      rw [outer, List.length_cons, ih, groups_link]
      cases level <;> rfl

/-- Within the limit on groups, so many calls are active at most. -/
lemma bounds (h : Fits phrase waiting) (few : groups waiting ≤ 200) :
    (phrase :: callers waiting).count .expression ≤ 201 ∧
      (phrase :: callers waiting).length ≤ 603 := by
  have innermost : phrase.calls ≤ 3 := by
    unfold Phrase.calls
    split <;> decide
  rw [h.count_expression, h.length_callers]
  omega

/-- A call that waits is itself waited for, out to the one for the whole input. -/
lemma tail (h : Fits phrase (frame :: waiting)) : waiting = [] ∨ ∃ outer, Fits outer waiting := by
  cases h with
  | whole => exact .inl rfl
  | group h => exact .inr ⟨_, h⟩
  | first h => exact .inr ⟨_, h⟩
  | link h => exact .inr ⟨_, h⟩

end Fits

/-! ## What a step keeps -/

/-- How many tokens there are, the end of the input not counted. -/
def tokenCount (tokens : List Token) : Nat :=
  tokens.countP fun token => !token.isEnd

/-- Of the tokens that were ahead, consuming one leaves one fewer. -/
lemma tokenCount_of_advance {p q : Parser} (h : p.advance = .ok q)
    (notEnd : p.current.isEnd = false) : tokenCount p.ahead.1 = tokenCount q.ahead.1 + 1 := by
  rw [ahead_of_advance h notEnd]
  exact List.countP_cons_of_pos (by rw [notEnd, Bool.not_false])

/-- Where the next token fails, one token was ahead. -/
lemma tokenCount_of_advance_error {p : Parser} {stopped : Stopped} (h : p.advance = .error stopped)
    (notEnd : p.current.isEnd = false) : tokenCount p.ahead.1 = 1 := by
  rw [ahead_of_advance_error h notEnd]
  exact List.countP_cons_of_pos (by rw [notEnd, Bool.not_false])

/-- A parser in the middle of its work, with a total of tokens: as many groups are open as it has
counted, which are not too many, and the tokens that it has consumed and those ahead of it are the
total. -/
structure Standing (total : Nat) (p : Parser) (waiting : List Frame) (advances : Nat) : Prop where
  /-- The open groups are counted. -/
  balanced : p.nesting = groups waiting
  /-- They are within the limit. -/
  few : groups waiting ≤ 200
  /-- Nothing is consumed that was not ahead. -/
  counted : advances + tokenCount p.ahead.1 = total

/-- No more is consumed than there was. -/
lemma Standing.advances_le {total : Nat} {p : Parser} {waiting : List Frame} {advances : Nat}
    (h : Standing total p waiting advances) : advances ≤ total := by
  have := h.counted
  omega

namespace Machine

/-- The states that a machine can be in, with a total of tokens. -/
inductive Sound (total : Nat) : Machine → Prop
  /-- A rule is called. -/
  | call {phrase : Phrase} {p : Parser} {waiting : List Frame} {advances : Nat}
      (fits : Fits phrase waiting) (standing : Standing total p waiting advances) :
      Sound total ⟨.call phrase p, waiting, advances⟩
  /-- A chain looks for an operator. -/
  | loop {level : Level} {left : Expr} {p : Parser} {waiting : List Frame} {advances : Nat}
      (fits : Fits (.chain level) waiting) (standing : Standing total p waiting advances) :
      Sound total ⟨.loop level left p, waiting, advances⟩
  /-- A call returns. -/
  | returned {tree : Expr} {p : Parser} {waiting : List Frame} {advances : Nat}
      (fits : waiting = [] ∨ ∃ phrase, Fits phrase waiting)
      (standing : Standing total p waiting advances) :
      Sound total ⟨.answer (.ok (tree, p)), waiting, advances⟩
  /-- A call raises a fault. -/
  | raised {stopped : Stopped} {waiting : List Frame} {advances : Nat}
      (fits : waiting = [] ∨ ∃ phrase, Fits phrase waiting) (few : groups waiting ≤ 200)
      (bounded : advances ≤ total) : Sound total ⟨.answer (.error stopped), waiting, advances⟩

variable {total : Nat} {s t : Machine}

/-- A token is consumed, or the next one fails: one more of those that were ahead. -/
lemma sound_consuming {p : Parser} {waiting : List Frame} {advances : Nat}
    {further : Parser → Moment × List Frame} (notEnd : p.current.isEnd = false)
    (counted : advances + tokenCount p.ahead.1 = total) (few : groups waiting ≤ 200)
    (fits : waiting = [] ∨ ∃ phrase, Fits phrase waiting)
    (goesOn : ∀ q, p.advance = .ok q → advances + 1 + tokenCount q.ahead.1 = total →
      Sound total ⟨(further q).1, (further q).2, advances + 1⟩) :
    Sound total (consuming p.advance further waiting advances) := by
  cases hadvance : p.advance with
  | error stopped =>
      refine .raised fits few ?_
      rw [tokenCount_of_advance_error hadvance notEnd] at counted
      exact counted.le
  | ok q =>
      refine goesOn q hadvance ?_
      rw [tokenCount_of_advance hadvance notEnd] at counted
      omega

/-- The call of a factor keeps it. -/
lemma sound_factor {p : Parser} {waiting : List Frame} {advances : Nat} (fits : Fits .factor waiting)
    (standing : Standing total p waiting advances) : Sound total (factor p waiting advances) := by
  obtain ⟨balanced, few, counted⟩ := standing
  have bounded : advances ≤ total := by omega
  unfold factor
  split
  · rename_i value hsymbol
    refine sound_consuming (by simp [Token.isEnd, hsymbol]) counted few (.inr ⟨_, fits⟩) ?_
    intro q hadvance counted'
    exact .returned (.inr ⟨_, fits⟩) ⟨(nesting_of_advance hadvance).trans balanced, few, counted'⟩
  · rename_i hopen
    split_ifs with hfull
    · exact .raised (.inr ⟨_, fits⟩) few bounded
    · refine sound_consuming (p := { p with nesting := p.nesting + 1 })
        (by simp [Token.isEnd, hopen]) counted few (.inr ⟨_, fits⟩) ?_
      intro q hadvance counted'
      have room : p.nesting < 200 := Int.not_le.mp hfull
      have opened : q.nesting = p.nesting + 1 := nesting_of_advance hadvance
      refine .call (.group fits) ⟨?_, ?_, counted'⟩
      · rw [groups_group]
        omega
      · rw [groups_group]
        omega
  · exact .raised (.inr ⟨_, fits⟩) few bounded

/-- The loop of a chain keeps it. -/
lemma sound_loop {level : Level} {left : Expr} {p : Parser} {waiting : List Frame} {advances : Nat}
    (fits : Fits (.chain level) waiting) (standing : Standing total p waiting advances) :
    Sound total (loop level left p waiting advances) := by
  obtain ⟨balanced, few, counted⟩ := standing
  unfold loop
  split
  · exact .returned (.inr ⟨_, fits⟩) ⟨balanced, few, counted⟩
  · rename_i op hop
    refine sound_consuming (isEnd_eq_false_of_operatorAt? hop) counted few (.inr ⟨_, fits⟩) ?_
    intro q hadvance counted'
    refine .call (.link fits) ⟨?_, ?_, counted'⟩
    · rw [groups_link, nesting_of_advance hadvance, balanced]
    · rwa [groups_link]

/-- A call that goes on keeps it. -/
lemma sound_resume {frame : Frame} {phrase : Phrase} {tree : Expr} {q : Parser}
    {waiting : List Frame} {advances : Nat} (fits : Fits phrase (frame :: waiting))
    (standing : Standing total q (frame :: waiting) advances) :
    Sound total (resume tree q waiting advances frame) := by
  obtain ⟨balanced, few, counted⟩ := standing
  have bounded : advances ≤ total := by omega
  cases fits with
  | whole =>
      rw [resume]
      split_ifs
      · exact .returned (.inl rfl) ⟨balanced, few, counted⟩
      · exact .raised (.inl rfl) few bounded
  | group fits =>
      rw [groups_group] at balanced few
      have few' : groups waiting ≤ 200 := by omega
      rw [resume]
      split_ifs with hclose
      · refine sound_consuming (by simp [Token.isEnd, hclose]) counted few' (.inr ⟨_, fits⟩) ?_
        intro r hadvance counted'
        have closed : r.nesting - 1 = groups waiting := by
          rw [nesting_of_advance hadvance, balanced]
          omega
        exact .returned (.inr ⟨_, fits⟩) ⟨closed, few', counted'⟩
      · exact .raised (.inr ⟨_, fits⟩) few' bounded
  | first fits =>
      rw [groups_first] at balanced few
      exact .loop fits ⟨balanced, few, counted⟩
  | link fits =>
      rw [groups_link] at balanced few
      exact .loop fits ⟨balanced, few, counted⟩

/-- Of the calls that wait, fewer groups are open without the innermost one. -/
lemma groups_le_cons (frame : Frame) (waiting : List Frame) :
    groups waiting ≤ groups (frame :: waiting) := by
  cases frame with
  | whole => exact le_rfl
  | first level => rw [groups_first]
  | link level op left => rw [groups_link]
  | group => rw [groups_group]; exact Nat.le_succ _

/-- **Every step keeps what a state is like.** -/
theorem Sound.step (h : Sound total s) (hstep : s.step = some t) : Sound total t := by
  cases h with
  | @call phrase p waiting advances fits standing =>
      cases phrase with
      | chain level =>
          obtain rfl := Option.some.inj hstep
          obtain ⟨balanced, few, counted⟩ := standing
          rw [← groups_first level] at balanced few
          exact .call (.first fits) ⟨balanced, few, counted⟩
      | factor =>
          obtain rfl := Option.some.inj hstep
          exact sound_factor fits standing
  | loop fits standing =>
      obtain rfl := Option.some.inj hstep
      exact sound_loop fits standing
  | @returned tree p waiting advances fits standing =>
      cases waiting with
      | nil => cases hstep
      | cons frame waiting =>
          obtain rfl := Option.some.inj hstep
          obtain ⟨phrase, fits⟩ := fits.resolve_left (List.cons_ne_nil _ _)
          exact sound_resume fits standing
  | @raised stopped waiting advances fits few bounded =>
      cases waiting with
      | nil => cases hstep
      | cons frame waiting =>
          obtain rfl := Option.some.inj hstep
          obtain ⟨phrase, fits⟩ := fits.resolve_left (List.cons_ne_nil _ _)
          exact .raised fits.tail ((groups_le_cons frame waiting).trans few) bounded

/-- A run keeps it. -/
lemma Sound.reaches (h : Sound total s) (hreaches : Reaches s t) : Sound total t := by
  induction hreaches with
  | refl => exact h
  | tail _ hstep ih => exact ih.step hstep

/-- A parser begins with no group open, and with everything ahead of it. -/
lemma sound_initial {p : Parser} (none : p.nesting = 0) : Sound (tokenCount p.ahead.1) (initial p) :=
  .call .whole ⟨none, Nat.zero_le _, Nat.zero_add _⟩

/-- **The bounds of every state**: on the tokens that have been consumed, on the expressions that are
active, and on all calls that are. -/
lemma Sound.bounds (h : Sound total s) :
    s.advances ≤ total ∧ s.active.count .expression ≤ 201 ∧ s.active.length ≤ 603 := by
  have waits : ∀ {waiting : List Frame}, (waiting = [] ∨ ∃ phrase, Fits phrase waiting) →
      groups waiting ≤ 200 →
        (callers waiting).count .expression ≤ 201 ∧ (callers waiting).length ≤ 603 := by
    rintro waiting (rfl | ⟨phrase, fits⟩) few
    · exact ⟨Nat.zero_le _, Nat.zero_le _⟩
    · obtain ⟨expressions, calls⟩ := fits.bounds few
      exact ⟨List.count_le_count_cons.trans expressions, (Nat.le_succ _).trans calls⟩
  cases h with
  | call fits standing => exact ⟨standing.advances_le, fits.bounds standing.few⟩
  | loop fits standing => exact ⟨standing.advances_le, fits.bounds standing.few⟩
  | returned fits standing => exact ⟨standing.advances_le, waits fits standing.few⟩
  | raised fits few bounded => exact ⟨bounded, waits fits few⟩

end Machine

/-! ## Bounds on the work of a parser -/

/-- A phrase takes a token. -/
lemma Took.length_pos {phrase : Phrase} {p q : Parser} {taken : List Token} {tree : Expr}
    (h : Took phrase p taken tree q) : 1 ≤ taken.length := by
  obtain ⟨first, later, hsymbols, -⟩ := h.derives.exists_first
  have length := congrArg List.length hsymbols
  rw [List.length_map, List.length_cons] at length
  omega

/-- A rule that succeeds has consumed a token. -/
lemma consumes_of_read {phrase : Phrase} {p q : Parser} {tree : Expr}
    (h : read phrase p = .ok (tree, q)) : ∃ taken, Consumes p taken q ∧ 1 ≤ taken.length := by
  obtain ⟨taken, consumes, took⟩ := exists_consumes_of_read h
  exact ⟨taken, consumes, took.length_pos⟩

/-- Each time round the loop of a chain, an operator is consumed and the operand behind it. -/
lemma consumes_of_link {level : Level} {op : Operator} {p q r : Parser} {right : Expr}
    (hop : p.operatorAt? level = some op) (hadvance : p.advance = .ok q)
    (hread : read level.operand q = .ok (right, r)) :
    ∃ taken, Consumes p taken r ∧ 2 ≤ taken.length := by
  obtain ⟨taken, run, took⟩ := exists_run_of_read hread
  have notEnd := isEnd_eq_false_of_operatorAt? hop
  have flat : unclosed [p.current.symbol] = 0 := by
    rw [(symbol_of_operatorAt? hop).1, unclosed_operator]
  refine ⟨_, ((Run.single notEnd flat hadvance).trans run).consumes, ?_⟩
  have := took.length_pos
  rw [List.length_append, List.length_singleton]
  omega

/-- **The work of a parser is bounded.** A fresh parser answers, after at most as many advances as its
source has tokens, the end of the input not counted: every run of its calls ends with its answer. At no
time are more than 201 calls for an expression active, nor more than 603 of any kind, whatever the
length of the source. The calls are those of the rules: from any state a call is answered as its rule
answers. Each time round the loop of a chain at least two tokens are consumed, and by a factor at least
one. -/
theorem parse_bounded {source : String} {allowTrailing : Bool} {p : Parser}
    (fresh : start (.ofSource source) allowTrailing = .ok p) :
    (∃ advances ≤ tokenCount (tokenize source).1, ∀ s, Machine.Reaches (.initial p) s →
      Machine.Reaches s ⟨.answer p.parse, [], advances⟩) ∧
    (∀ s, Machine.Reaches (.initial p) s →
      s.advances ≤ tokenCount (tokenize source).1 ∧ s.active.count .expression ≤ 201 ∧
        s.active.length ≤ 603) ∧
    (∀ phrase q waiting before, ∃ behind,
      Machine.Reaches ⟨.call phrase q, waiting, before⟩ ⟨.answer (read phrase q), waiting, behind⟩) ∧
    (∀ level left op q r right s, q.operatorAt? level = some op → q.advance = .ok r →
      operandOf level r = .ok (right, s) → more level left q = more level (.node op left right) s ∧
        ∃ taken, Consumes q taken s ∧ 2 ≤ taken.length) ∧
    ∀ q tree s, factor q = .ok (tree, s) → ∃ taken, Consumes q taken s ∧ 1 ≤ taken.length := by
  obtain ⟨ahead, none, -⟩ := ahead_of_start fresh
  have sound := Machine.sound_initial none
  rw [ahead, ← tokenize] at sound
  refine ⟨?_, fun s hs => (sound.reaches hs).bounds,
    fun phrase q => Machine.reaches_answer phrase q, ?_, ?_⟩
  · obtain ⟨advances, answered⟩ := Machine.reaches_parse p
    exact ⟨advances, (sound.reaches answered).bounds.1,
      fun s hs => Machine.reaches_of_halts answered rfl hs⟩
  · intro level left op q r right s hop hadvance hoperand
    refine ⟨?_, ?_⟩
    · rw [more_eq]
      simp only [hop, hadvance, hoperand]
    · rw [operandOf_eq_read] at hoperand
      exact consumes_of_link hop hadvance hoperand
  · exact fun q tree s hfactor => @consumes_of_read .factor q s tree hfactor

/-- In a group the expression is active twice, with a term and a factor between the two calls. -/
theorem parse_bounded_group :
    ∃ p, start (.ofSource "(1)") false = .ok p ∧
      (∃ advances ≤ tokenCount (tokenize "(1)").1, ∀ s, Machine.Reaches (.initial p) s →
        Machine.Reaches s ⟨.answer p.parse, [], advances⟩) ∧
      ∃ s, Machine.Reaches (.initial p) s ∧
        s.active = [.expression, .factor, .term, .expression] ∧ s.advances = 1 ∧
          s.advances ≤ tokenCount (tokenize "(1)").1 ∧ s.active.count .expression ≤ 201 := by
  let lexer := (Lexer.ofSource "(1)").next.2
  let p : Parser := ⟨lexer, ⟨.leftParen, 0⟩, 0, false⟩
  let q : Parser := ⟨lexer.next.2, ⟨.number (.ofDecimal false ⟨1, 0⟩), 1⟩, 1, false⟩
  have fresh : start (.ofSource "(1)") false = .ok p := rfl
  obtain ⟨halts, bounds, -⟩ := parse_bounded fresh
  have reached : Machine.Reaches (.initial p)
      ⟨.call .expression q, [.group, .first .product, .first .sum, .whole], 1⟩ :=
    .head rfl (.head rfl (.head rfl .refl))
  obtain ⟨advances, expressions, -⟩ := bounds _ reached
  exact ⟨p, fresh, halts, _, reached, rfl, rfl, advances, expressions⟩

end Parser

end Calculator
