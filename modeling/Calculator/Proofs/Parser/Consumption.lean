import Calculator.Proofs.Lexer.Cursor
import Calculator.Proofs.Parser.Automaton
import Calculator.Proofs.Parser.Run

/-!
# What the rules consume, from any parser state

A parser need not be fresh: its current token, its lexer and its number of open groups may be
anything. What it has before it is its current token and whatever its lexer hands out from where the
cursor stands (`Parser.stream`). It consumes tokens if they are the first of these, and the lexer
has been asked once for each of them and no more, so that the new current token is the next one and
nothing behind it has been handed out (`Parser.Consumes`).

* A run consumes what it takes (`Parser.Run.consumes`), and this determines the state behind it up
  to the number of open groups (`Parser.Consumes.unique`).
* A rule that stops has closed no group but those that it opened itself
  (`Parser.stopsGrounded_read`), so of the parentheses that it consumed as many are unclosed as it
  has left groups open.

`Parser.read_eq_ok_iff_consumes` says when a rule succeeds, with what and where, and how many groups
are open behind a complaint.
-/

namespace Calculator

namespace Parser

/-! ## Consuming tokens -/

/-- The tokens that a parser has before it: its current one, whichever it is, and those that its
lexer hands out from its position on. -/
def stream (p : Parser) : List Token × Option Fault :=
  p.current.followedBy p.lexer.tokens

/-- A parser has come to another by consuming the first tokens of what it had before it. -/
structure Consumes (p : Parser) (taken : List Token) (q : Parser) : Prop where
  /-- The tokens are the first of the stream, and the new current token is the next one. -/
  stream : taken ++ [q.current] <+: p.stream.1
  /-- None of them is the end of the input. -/
  notEnd : ∀ token ∈ taken, token.isEnd = false
  /-- The lexer has been asked for the tokens behind the old current one up to the new one, and for
  nothing beyond it. -/
  handed : ∃ handed, p.current :: handed = taken ++ [q.current] ∧
    p.lexer.serve (List.replicate handed.length .next) = ⟨handed, none, q.lexer⟩

/-- Where the current token is not the end of the input, the stream is what lies ahead. -/
lemma stream_eq_ahead {p : Parser} (notEnd : p.current.isEnd = false) : p.stream = p.ahead := by
  rw [ahead, if_neg (by simp [notEnd])]
  rfl

/-- The lexer fails on characters. -/
lemma kind_of_advance_error {p : Parser} {stopped : Stopped} (notEnd : p.current.isEnd = false)
    (h : p.advance = .error stopped) : stopped.fault.cause.kind = .lexical :=
  kind_of_ahead (ahead_of_advance_error h notEnd)

/-- **A run consumes what it takes.** -/
lemma Run.consumes {p q : Parser} {taken : List Token} (h : Run p taken q) :
    Consumes p taken q where
  stream := by
    cases h with
    | refl p => exact List.prefix_append [p.current] p.lexer.tokens.1
    | step notEnd hadvance later =>
        obtain ⟨behind, hbehind⟩ := q.ahead_eq_cons
        rw [stream_eq_ahead notEnd, (Run.step notEnd hadvance later).ahead_eq, hbehind]
        exact ⟨behind, List.append_assoc ..⟩
  notEnd := by
    induction h with
    | refl p => exact fun token htoken => nomatch htoken
    | step notEnd hadvance later ih => exact List.forall_mem_cons.mpr ⟨notEnd, ih⟩
  handed := by
    induction h with
    | refl p => exact ⟨[], rfl, rfl⟩
    | @step p q r taken notEnd hadvance later ih =>
        obtain ⟨handed, same, served⟩ := ih
        refine ⟨q.current :: handed, congrArg (p.current :: ·) same, ?_⟩
        rw [List.length_cons, List.replicate_succ, Lexer.serve_next (next_of_advance hadvance)]
        rw [served]

/-- What is consumed determines the new current token and the lexer. -/
lemma Consumes.unique {p q q' : Parser} {taken : List Token} (h : Consumes p taken q)
    (h' : Consumes p taken q') : q.current = q'.current ∧ q.lexer = q'.lexer := by
  have current : taken ++ [q.current] = taken ++ [q'.current] :=
    (List.prefix_of_prefix_length_le h.stream h'.stream (by simp)).eq_of_length (by simp)
  obtain ⟨handed, same, served⟩ := h.handed
  obtain ⟨handed', same', served'⟩ := h'.handed
  obtain rfl : handed = handed' := by
    rw [current, ← same'] at same
    exact (List.cons.inj same).2
  rw [served] at served'
  exact ⟨by simpa using current, congrArg Lexer.Served.lexer served'⟩

/-! ## Rules that stop -/

/-- Where a rule stops, it has closed no group but those that it opened. -/
def StopsGrounded (p : Parser) (answer : Except Stopped (Expr × Parser)) : Prop :=
  ∀ stopped, answer = .error stopped →
    ∃ taken q, Run p taken q ∧ Halts q stopped ∧ Grounded (taken.map Token.symbol)

namespace StopsGrounded

/-- A rule that succeeds does not stop. -/
lemma of_ok (p : Parser) (answer : Expr × Parser) : StopsGrounded p (.ok answer) :=
  fun _ h => nomatch h

/-- A parser that stops where it is has closed nothing. -/
lemma of_halts {p : Parser} {stopped : Stopped} (halts : Halts p stopped) :
    StopsGrounded p (.error stopped) := by
  rintro _ ⟨⟩
  exact ⟨[], p, .refl p, halts, .nil⟩

/-- What holds behind a run that closes nothing from outside holds before it. -/
lemma of_run {p q : Parser} {taken : List Token} {answer : Except Stopped (Expr × Parser)}
    (run : Run p taken q) (grounded : Grounded (taken.map Token.symbol))
    (h : StopsGrounded q answer) : StopsGrounded p answer := by
  intro stopped hstopped
  obtain ⟨more, r, further, halts, grounded'⟩ := h stopped hstopped
  refine ⟨taken ++ more, r, run.trans further, halts, ?_⟩
  rw [List.map_append]
  exact grounded.append grounded'

/-- What holds behind a rule that succeeds holds before it. -/
lemma of_read {phrase : Phrase} {p q : Parser} {tree : Expr}
    {answer : Except Stopped (Expr × Parser)} (hread : read phrase p = .ok (tree, q))
    (h : StopsGrounded q answer) : StopsGrounded p answer := by
  obtain ⟨taken, run, took⟩ := exists_run_of_read hread
  exact h.of_run run took.derives.grounded

/-- The rule for a factor closes only what it opens, if the rule for the expression inside a group
does. -/
lemma factor (p : Parser)
    (inner : ∀ q, p.current.symbol = .leftParen →
      advance { p with nesting := p.nesting + 1 } = .ok q → StopsGrounded q (read .expression q)) :
    StopsGrounded p (read .factor p) := by
  rw [read, factor_eq]
  split
  · rename_i value hsymbol
    have notEnd : p.current.isEnd = false := by simp [Token.isEnd, hsymbol]
    split
    · rename_i stopped hadvance
      exact of_halts (.exhausted (n := p.nesting) notEnd hadvance)
    · exact of_ok _ _
  · rename_i hopen
    have notEnd : p.current.isEnd = false := by simp [Token.isEnd, hopen]
    split_ifs with hfull
    · exact of_halts (.complaint .nestedTooDeeply)
    · split
      · rename_i stopped hadvance
        exact of_halts (.exhausted notEnd hadvance)
      · rename_i q hadvance
        have opening : Grounded ([p.current].map Token.symbol) := by
          rw [List.map_singleton, hopen]
          exact .cons (by decide) .nil
        refine of_run (.opening hopen hadvance) opening ?_
        have inside := inner q hopen hadvance
        rw [read, ← expression] at inside
        split
        · rename_i stopped hexpression
          rwa [hexpression] at inside
        · rename_i tree r hexpression
          have hread : read .expression q = .ok (tree, r) := hexpression
          refine of_read hread ?_
          -- the group is closed last, and behind that nothing can go wrong
          split_ifs with hclose
          · split
            · rename_i stopped hadvance'
              exact of_halts (.exhausted (n := r.nesting) (by simp [Token.isEnd, hclose]) hadvance')
            · exact of_ok _ _
          · exact of_halts (.complaint .missingParenthesis)
  · exact of_halts (.complaint .unexpected)

/-- The rule for a chain closes only what it opens, if the rule for its operands and the loop behind
the first one do. -/
lemma chain (level : Level) (p : Parser) (operand : StopsGrounded p (read level.operand p))
    (links : ∀ first q, read level.operand p = .ok (first, q) →
      StopsGrounded q (more level first q)) : StopsGrounded p (read (.chain level) p) := by
  rw [read_chain]
  split
  · rename_i stopped hread
    rwa [hread] at operand
  · rename_i first q hread
    exact of_read hread (links first q hread)

/-- The loop over the rest of a chain closes only what it opens, if the operand of the next link and
the loop behind it do. -/
lemma more (level : Level) (left : Expr) (p : Parser)
    (link : ∀ op q, p.operatorAt? level = some op → p.advance = .ok q →
      StopsGrounded q (read level.operand q) ∧ ∀ right r, read level.operand q = .ok (right, r) →
        StopsGrounded r (Parser.more level (.node op left right) r)) :
    StopsGrounded p (Parser.more level left p) := by
  rw [more_eq]
  split
  · exact of_ok _ _
  · rename_i op hop
    have notEnd := isEnd_eq_false_of_operatorAt? hop
    have hsymbol := (symbol_of_operatorAt? hop).1
    split
    · rename_i stopped hadvance
      exact of_halts (.exhausted (n := p.nesting) notEnd hadvance)
    · rename_i q hadvance
      obtain ⟨operand, further⟩ := link op q hop hadvance
      have flat : Grounded ([p.current].map Token.symbol) := by
        rw [List.map_singleton, hsymbol]
        exact .cons le_rfl .nil
      refine of_run (.single notEnd (by rw [hsymbol, unclosed_operator]) hadvance) flat ?_
      rw [operandOf_eq_read]
      split
      · rename_i stopped hread
        rwa [hread] at operand
      · rename_i right r hread
        exact of_read hread (further right r hread)

end StopsGrounded

/-- **A rule that stops has closed only what it opened.** -/
theorem stopsGrounded_read (phrase : Phrase) (p : Parser) : StopsGrounded p (read phrase p) :=
  (rules_induction (P := fun phrase p => StopsGrounded p (read phrase p))
    (Q := fun level left p => StopsGrounded p (more level left p))
    StopsGrounded.factor StopsGrounded.chain StopsGrounded.more).1 phrase p

/-! ## Rules from any state -/

/-- A rule that succeeds has consumed the tokens of its phrase. -/
lemma exists_consumes_of_read {phrase : Phrase} {p q : Parser} {tree : Expr}
    (h : read phrase p = .ok (tree, q)) :
    ∃ taken, Consumes p taken q ∧ Took phrase p taken tree q := by
  obtain ⟨taken, run, took⟩ := exists_run_of_read h
  exact ⟨taken, run.consumes, took⟩

/-- A rule reads a phrase that is first in the stream, within the room that is left, where it cannot
go on behind it; and then it is at any state that has consumed the phrase and nothing else. -/
lemma read_of_consumes {phrase : Phrase} {p q : Parser} {taken : List Token} {tree : Expr}
    (hconsumes : Consumes p taken q) (derives : Derives phrase (taken.map Token.symbol) tree)
    (nests : NestsWithin p.room (taken.map Token.symbol))
    (stops : phrase.continues q.current.symbol = false) (nesting : q.nesting = p.nesting)
    (allowTrailing : q.allowTrailing = p.allowTrailing) : read phrase p = .ok (tree, q) := by
  obtain ⟨behind, hstream⟩ := hconsumes.stream
  have notEnd : p.current.isEnd = false := by
    obtain ⟨first, later, hsymbols, -⟩ := derives.exists_first
    obtain ⟨token, tokens, rfl, -, -⟩ := List.map_eq_cons_iff.mp hsymbols
    obtain ⟨handed, same, -⟩ := hconsumes.handed
    rw [(List.cons.inj same).1]
    exact hconsumes.notEnd token (by simp)
  have hahead : p.ahead = (taken ++ q.current :: behind, p.ahead.2) := by
    rw [stream_eq_ahead notEnd, List.append_assoc] at hstream
    exact Prod.ext hstream.symm rfl
  have ends : phrase.EndsBefore ((q.current :: behind).map Token.symbol) := by
    intro symbol hsymbol
    obtain rfl : q.current.symbol = symbol := by simpa using hsymbol
    exact stops
  obtain ⟨q', hread, hq'⟩ := read_complete derives p taken (q.current :: behind) _ rfl hahead
    (List.cons_ne_nil _ _) ends nests
  obtain ⟨taken', hconsumes', took⟩ := exists_consumes_of_read hread
  obtain rfl : taken' = taken := by
    have same := took.ahead
    rw [hq', hahead] at same
    exact (List.append_cancel_right (Prod.mk.inj same).1).symm
  obtain ⟨hcurrent, hlexer⟩ := hconsumes'.unique hconsumes
  have sameNesting : q'.nesting = q.nesting := took.nesting.trans nesting.symm
  have sameTrailing : q'.allowTrailing = q.allowTrailing :=
    took.allowTrailing.trans allowTrailing.symm
  rw [hread]
  cases q
  cases q'
  subst hcurrent hlexer sameNesting sameTrailing
  rfl

/-- **The rules, from any state of the parser.** A rule succeeds if and only if the first tokens of
the stream derive the tree, no beginning of them has more parentheses unclosed than are left up to
the limit, and the phrase could not go on at the next token; and then these tokens have been
consumed, that one is looked at, and as many groups are open as before. Where a rule complains about
a token, as many groups more are open as the tokens that it has consumed leave open. -/
theorem read_eq_ok_iff_consumes (phrase : Phrase) (p : Parser) :
    (∀ tree q, read phrase p = .ok (tree, q) ↔
      ∃ taken, Consumes p taken q ∧ Derives phrase (taken.map Token.symbol) tree ∧
        NestsWithin (max 0 (200 - p.nesting)) (taken.map Token.symbol) ∧
          phrase.continues q.current.symbol = false ∧ q.nesting = p.nesting ∧
            q.allowTrailing = p.allowTrailing) ∧
      ∀ stopped, read phrase p = .error stopped → stopped.fault.cause.kind = .syntactic →
        ∃ taken, Consumes p taken stopped.parser ∧ Grounded (taken.map Token.symbol) ∧
          stopped.parser.nesting = p.nesting + unclosed (taken.map Token.symbol) := by
  constructor
  · intro tree q
    constructor
    · intro hread
      obtain ⟨taken, hconsumes, took⟩ := exists_consumes_of_read hread
      exact ⟨taken, hconsumes, took.derives, took.nests, took.stops, took.nesting,
        took.allowTrailing⟩
    · rintro ⟨taken, hconsumes, derives, nests, stops, nesting, allowTrailing⟩
      exact read_of_consumes hconsumes derives nests stops nesting allowTrailing
  · intro stopped hread syntactic
    obtain ⟨taken, q, run, halts, grounded⟩ := stopsGrounded_read phrase p stopped hread
    cases halts with
    | complaint complaint => exact ⟨taken, run.consumes, grounded, run.nesting_eq⟩
    | exhausted notEnd hadvance =>
        rw [kind_of_advance_error (by exact notEnd) hadvance] at syntactic
        cases syntactic

/-- From a state with its number of open groups above the limit, a term without parentheses is read.
A group that is not closed is still open behind the complaint, on top of those that were. -/
theorem read_eq_ok_iff_consumes_unclosed :
    (∃ p q : Parser, p.nesting = 250 ∧ read .term p = .ok (.leaf (.ofDecimal false ⟨7, 0⟩), q) ∧
      q.nesting = 250 ∧ ∃ taken, Consumes p taken q ∧
        Derives .term (taken.map Token.symbol) (.leaf (.ofDecimal false ⟨7, 0⟩)) ∧
          NestsWithin (max 0 (200 - 250)) (taken.map Token.symbol)) ∧
      ∃ (p : Parser) (stopped : Stopped), p.nesting = 5 ∧ read .factor p = .error stopped ∧
        stopped.fault.cause.kind = .syntactic ∧ stopped.parser.nesting = 6 ∧
          ∃ taken, Consumes p taken stopped.parser ∧ Grounded (taken.map Token.symbol) ∧
            stopped.parser.nesting = 5 + unclosed (taken.map Token.symbol) := by
  constructor
  · let lexer := (Lexer.ofSource "7 )").seek 1
    let p : Parser := ⟨lexer, ⟨.number (.ofDecimal false ⟨7, 0⟩), 0⟩, 250, false⟩
    let q : Parser := ⟨lexer.next.2, ⟨.rightParen, 2⟩, 250, false⟩
    have consumed : p.advance = .ok q := rfl
    have hread : read .term p = .ok (.leaf (.ofDecimal false ⟨7, 0⟩), q) := by
      have operand : read Level.product.operand p = .ok (.leaf (.ofDecimal false ⟨7, 0⟩), q) := by
        show p.factor = _
        simp only [factor_eq, p, consumed]
      rw [read_chain, operand]
      exact more_eq .product _ q
    obtain ⟨taken, consumes, derives, nests, -, nesting, -⟩ :=
      ((read_eq_ok_iff_consumes .term p).1 _ q).mp hread
    exact ⟨p, q, rfl, hread, nesting, taken, consumes, derives, nests⟩
  · let lexer := (Lexer.ofSource "(1 (").seek 1
    let p : Parser := ⟨lexer, ⟨.leftParen, 0⟩, 5, false⟩
    let q : Parser := ⟨lexer.next.2, ⟨.number (.ofDecimal false ⟨1, 0⟩), 1⟩, 6, false⟩
    let r : Parser := ⟨lexer.next.2.next.2, ⟨.leftParen, 3⟩, 6, false⟩
    have opened : advance { p with nesting := p.nesting + 1 } = .ok q := rfl
    have consumed : q.advance = .ok r := rfl
    have inner : q.expression = .ok (.leaf (.ofDecimal false ⟨1, 0⟩), r) := by
      simp only [expression, chainOf_eq, operandOf_sum, term, operandOf_product, factor_eq, q, r,
        consumed, more_eq, operatorAt?, Symbol.operatorAt?]
    have hread : read .factor p = .error (r.complain .missingParenthesis) := by
      rw [read, factor_eq]
      simp only [opened, inner]
      rfl
    exact ⟨p, _, rfl, hread, rfl, rfl, (read_eq_ok_iff_consumes .factor p).2 _ hread rfl⟩

end Parser

end Calculator
