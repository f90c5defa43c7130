import Calculator.Proofs.Parser.Recognition

/-!
# Runs of the parser

A parser moves by consuming tokens. `Run p taken q` says that it comes from `p` to `q` by consuming
exactly the tokens `taken`, none of which is the end of the input. Each of them is its current token
when it is consumed, and the count of open groups goes along with the parentheses among them
(`Run.nesting_eq`).

* **Every rule is a run** (`Parser.comes_to`): a rule that succeeds is at the parser behind the run,
  and a rule that stops either complains about the token at which the run has arrived or cannot
  fetch the one behind it (`Halts`).
* What a run takes was ahead of it, and the rest is ahead of it now (`Run.ahead_eq`), so the run of
  a rule that succeeds takes the tokens that the grammar ascribes to it (`exists_run_of_read`).

A property that every step of a run keeps is thus kept by all that the rules do.
-/

namespace Calculator

namespace Parser

/-! ## Steps and runs -/

/-- A parser with another number of open groups consumes a token as it would with its own. -/
lemma advance_nesting (p : Parser) (n : Int) :
    advance { p with nesting := n } =
      match p.advance with
      | .ok q => .ok { q with nesting := n }
      | .error stopped => .error ⟨stopped.fault, { stopped.parser with nesting := n }⟩ := by
  simp only [advance]
  split <;> rfl

/-- A parser comes to another one by consuming tokens, none of them the end of the input. -/
inductive Run : Parser → List Token → Parser → Prop
  /-- Nothing is consumed. -/
  | refl (p : Parser) : Run p [] p
  /-- The current token is consumed, and then others. -/
  | step {p q r : Parser} {taken : List Token} (notEnd : p.current.isEnd = false)
      (hadvance : p.advance = .ok q)
      (later : Run { q with nesting := q.nesting + unclosed [p.current.symbol] } taken r) :
      Run p (p.current :: taken) r

/-- How a rule stops at a parser: with a complaint about the current token, or because the token
behind it cannot be fetched, with whatever number of groups open. -/
inductive Halts (q : Parser) : Stopped → Prop
  /-- The current token does not belong there. -/
  | complaint (complaint : Complaint) : Halts q (q.complain complaint)
  /-- The current token does, and the lexer fails behind it. -/
  | exhausted {n : Int} {stopped : Stopped} (notEnd : q.current.isEnd = false)
      (hadvance : advance { q with nesting := n } = .error stopped) : Halts q stopped

/-- What a rule comes to from a parser: another parser behind a run, or a halt behind one. -/
inductive ComesTo (p : Parser) : Except Stopped (Expr × Parser) → Prop
  /-- The rule succeeds. -/
  | done {taken : List Token} {tree : Expr} {q : Parser} (run : Run p taken q) :
      ComesTo p (.ok (tree, q))
  /-- The rule stops. -/
  | halted {taken : List Token} {q : Parser} {stopped : Stopped} (run : Run p taken q)
      (halts : Halts q stopped) : ComesTo p (.error stopped)

namespace Run

/-- One run after another. -/
lemma trans {p q r : Parser} {first second : List Token} (h : Run p first q)
    (h' : Run q second r) : Run p (first ++ second) r := by
  induction h with
  | refl p => exact h'
  | step notEnd hadvance later ih => exact .step notEnd hadvance (ih h')

/-- A token that opens and closes nothing is consumed. -/
lemma single {p q : Parser} (notEnd : p.current.isEnd = false)
    (flat : unclosed [p.current.symbol] = 0) (hadvance : p.advance = .ok q) :
    Run p [p.current] q := by
  refine .step notEnd hadvance ?_
  rw [flat, Int.add_zero]
  exact .refl q

/-- The parenthesis that opens a group is consumed, with the group counted beforehand. -/
lemma opening {p q : Parser} (hopen : p.current.symbol = .leftParen)
    (hadvance : advance { p with nesting := p.nesting + 1 } = .ok q) : Run p [p.current] q := by
  rw [advance_nesting] at hadvance
  cases hnext : p.advance with
  | error stopped =>
      rw [hnext] at hadvance
      cases hadvance
  | ok r =>
      rw [hnext] at hadvance
      cases hadvance
      refine .step (by simp [Token.isEnd, hopen]) hnext ?_
      rw [hopen, unclosed_leftParen, nesting_of_advance hnext]
      exact .refl _

/-- The parenthesis that closes a group is consumed, and the group is no longer counted. -/
lemma closing {p q : Parser} (hclose : p.current.symbol = .rightParen)
    (hadvance : p.advance = .ok q) : Run p [p.current] { q with nesting := q.nesting - 1 } := by
  refine .step (by simp [Token.isEnd, hclose]) hadvance ?_
  rw [hclose, unclosed_rightParen]
  exact .refl _

/-- What a run takes was ahead, and what follows it is ahead now. -/
lemma ahead_eq {p q : Parser} {taken : List Token} (h : Run p taken q) :
    p.ahead = (taken ++ q.ahead.1, q.ahead.2) := by
  induction h with
  | refl p => rfl
  | step notEnd hadvance later ih =>
      rw [ahead_nesting] at ih
      rw [ahead_of_advance hadvance notEnd, ih]
      rfl

/-- Behind a run as many groups more are open as its tokens leave open. -/
lemma nesting_eq {p q : Parser} {taken : List Token} (h : Run p taken q) :
    q.nesting = p.nesting + unclosed (taken.map Token.symbol) := by
  induction h with
  | refl p => exact (Int.add_zero _).symm
  | @step p q r taken notEnd hadvance later ih =>
      have first : q.nesting = p.nesting := nesting_of_advance hadvance
      calc r.nesting
        _ = q.nesting + unclosed [p.current.symbol] + unclosed (taken.map Token.symbol) := ih
        _ = p.nesting + unclosed ((p.current :: taken).map Token.symbol) := by
            rw [first, List.map_cons, unclosed_cons _ (taken.map _), Int.add_assoc]

end Run

/-! ## Rules are runs -/

namespace ComesTo

/-- What a parser behind a run comes to, the parser before it comes to. -/
lemma of_run {p q : Parser} {taken : List Token} {answer : Except Stopped (Expr × Parser)}
    (run : Run p taken q) (h : ComesTo q answer) : ComesTo p answer := by
  cases h with
  | done later => exact .done (run.trans later)
  | halted later halts => exact .halted (run.trans later) halts

/-- A parser complains about its current token. -/
lemma complaint (p : Parser) (complaint : Complaint) : ComesTo p (.error (p.complain complaint)) :=
  .halted (.refl p) (.complaint complaint)

/-- The lexer fails behind the current token. -/
lemma exhausted {p : Parser} {n : Int} {stopped : Stopped} (notEnd : p.current.isEnd = false)
    (hadvance : advance { p with nesting := n } = .error stopped) : ComesTo p (.error stopped) :=
  .halted (.refl p) (.exhausted notEnd hadvance)

/-- The rule for a factor is a run, if the rule for the expression inside a group is. -/
lemma factor (p : Parser)
    (inner : ∀ q, p.current.symbol = .leftParen →
      advance { p with nesting := p.nesting + 1 } = .ok q → ComesTo q (read .expression q)) :
    ComesTo p (read .factor p) := by
  rw [read, factor_eq]
  split
  · rename_i value hsymbol
    have notEnd : p.current.isEnd = false := by simp [Token.isEnd, hsymbol]
    split
    · rename_i stopped hadvance
      exact .exhausted (n := p.nesting) notEnd hadvance
    · rename_i q hadvance
      exact .done (.single notEnd (by rw [hsymbol, unclosed_number]) hadvance)
  · rename_i hopen
    split_ifs with hfull
    · exact .complaint p .nestedTooDeeply
    · split
      · rename_i stopped hadvance
        exact .exhausted (by simp [Token.isEnd, hopen]) hadvance
      · rename_i q hadvance
        refine .of_run (.opening hopen hadvance) ?_
        have inside := inner q hopen hadvance
        rw [read, ← expression] at inside
        split
        · rename_i stopped hexpression
          rwa [hexpression] at inside
        · rename_i tree r hexpression
          rw [hexpression] at inside
          cases inside with
          | done run =>
              refine .of_run run ?_
              split_ifs with hclose
              · split
                · rename_i stopped hadvance'
                  exact .exhausted (n := r.nesting) (by simp [Token.isEnd, hclose]) hadvance'
                · rename_i s hadvance'
                  exact .done (.closing hclose hadvance')
              · exact .complaint r .missingParenthesis
  · exact .complaint p .unexpected

/-- The rule for a chain is a run, if the rule for its operands and the loop behind the first one
are. -/
lemma chain (level : Level) (p : Parser) (operand : ComesTo p (read level.operand p))
    (links : ∀ first q, read level.operand p = .ok (first, q) → ComesTo q (more level first q)) :
    ComesTo p (read (.chain level) p) := by
  rw [read_chain]
  split
  · rename_i stopped hread
    rwa [hread] at operand
  · rename_i first q hread
    have further := links first q hread
    rw [hread] at operand
    cases operand with
    | done run => exact .of_run run further

/-- The loop over the rest of a chain is a run, if the operand of the next link and the loop behind
it are. -/
lemma more (level : Level) (left : Expr) (p : Parser)
    (link : ∀ op q, p.operatorAt? level = some op → p.advance = .ok q →
      ComesTo q (read level.operand q) ∧ ∀ right r, read level.operand q = .ok (right, r) →
        ComesTo r (Parser.more level (.node op left right) r)) :
    ComesTo p (Parser.more level left p) := by
  rw [more_eq]
  split
  · exact .done (.refl p)
  · rename_i op hop
    have notEnd := isEnd_eq_false_of_operatorAt? hop
    split
    · rename_i stopped hadvance
      exact .exhausted (n := p.nesting) notEnd hadvance
    · rename_i q hadvance
      obtain ⟨operand, further⟩ := link op q hop hadvance
      have flat : unclosed [p.current.symbol] = 0 := by
        rw [(symbol_of_operatorAt? hop).1, unclosed_operator]
      refine .of_run (.single notEnd flat hadvance) ?_
      rw [operandOf_eq_read]
      split
      · rename_i stopped hread
        rwa [hread] at operand
      · rename_i right r hread
        have later := further right r hread
        rw [hread] at operand
        cases operand with
        | done run => exact .of_run run later

end ComesTo

/-- **Every rule is a run**, whatever it answers. -/
theorem comes_to (phrase : Phrase) (p : Parser) : ComesTo p (read phrase p) :=
  (rules_induction (P := fun phrase p => ComesTo p (read phrase p))
    (Q := fun level left p => ComesTo p (more level left p))
    ComesTo.factor ComesTo.chain ComesTo.more).1 phrase p

/-- The run of a rule that succeeds takes the tokens of the phrase that was read. -/
lemma exists_run_of_read {phrase : Phrase} {p q : Parser} {tree : Expr}
    (h : read phrase p = .ok (tree, q)) :
    ∃ taken, Run p taken q ∧ Took phrase p taken tree q := by
  obtain ⟨taken, took⟩ := read_sound h
  have answer := comes_to phrase p
  rw [h] at answer
  cases answer with
  | @done taken' _ _ run =>
      have same := run.ahead_eq
      rw [took.ahead] at same
      obtain rfl : taken = taken' := List.append_cancel_right (Prod.mk.inj same).1
      exact ⟨taken, run, took⟩

end Parser

end Calculator
