import Calculator.Calculation
import Calculator.Proofs.Lexer.Stream
import Calculator.Proofs.Parser.Grammar

/-!
# The rules of the parser, as one family

The parser has one rule for each phrase of the grammar (`Parser.read`), and beside them the loop over
the rest of a chain (`Parser.more`). What is proved about the rules is proved by one induction,
`Parser.rules_induction`: its three cases are the three bodies, and in each of them the statement may
be used of every call that the body makes. That the calls have less before them is settled there and
nowhere else.

What a parser has before it is its current token and the stream of its lexer (`Parser.ahead`). The
end of the input is the last token of a stream, so nothing stands behind it, whatever the lexer would
answer. Consuming a token takes the first one off (`Parser.ahead_of_advance`), and it fails exactly
where the stream does (`Parser.ahead_of_advance_error`).
-/

namespace Calculator

namespace Parser

/-! ## The rules -/

/-- The rule for a phrase. -/
def read : Phrase → Parser → Except Stopped (Expr × Parser)
  | .chain level, p => chainOf level p
  | .factor, p => p.factor

/-- The operands of a level are read by the rule for them. -/
lemma operandOf_eq_read (level : Level) (p : Parser) : operandOf level p = read level.operand p := by
  cases level
  · exact operandOf_sum p
  · exact operandOf_product p

/-- A chain is an operand and the rest behind it. -/
lemma read_chain (level : Level) (p : Parser) :
    read (.chain level) p =
      match read level.operand p with
      | .error stopped => .error stopped
      | .ok (first, q) => more level first q := by
  have whole := chainOf_eq level p
  rw [operandOf_eq_read] at whole
  exact whole

/-- A rule that succeeds leaves less than it found. -/
lemma remaining_lt_of_read {phrase : Phrase} {p q : Parser} {tree : Expr}
    (h : read phrase p = .ok (tree, q)) : q.remaining < p.remaining := by
  have below : ∀ {answer : Except Stopped (Reduced p.remaining)},
      answer.map Reduced.pair = .ok (tree, q) → q.remaining < p.remaining := by
    intro answer hanswer
    cases answer with
    | error stopped => cases hanswer
    | ok reduced =>
        cases hanswer
        exact reduced.within
  cases phrase with
  | chain level => exact below h
  | factor => exact below h

/-- **Induction over the rules.** A property `P` of the rules, together with a property `Q` of the
loop over the rest of a chain, holds of all parsers if it holds of each body whenever it holds of the
calls in it. -/
theorem rules_induction {P : Phrase → Parser → Prop} {Q : Level → Expr → Parser → Prop}
    (factor : ∀ p : Parser,
      (∀ q, p.current.symbol = .leftParen → advance { p with nesting := p.nesting + 1 } = .ok q →
        P .expression q) → P .factor p)
    (chain : ∀ (level : Level) (p : Parser), P level.operand p →
      (∀ first q, read level.operand p = .ok (first, q) → Q level first q) → P (.chain level) p)
    (more : ∀ (level : Level) (left : Expr) (p : Parser),
      (∀ op q, p.operatorAt? level = some op → p.advance = .ok q →
        P level.operand q ∧
          ∀ right r, read level.operand q = .ok (right, r) → Q level (.node op left right) r) →
      Q level left p) :
    (∀ phrase p, P phrase p) ∧ ∀ level left p, Q level left p := by
  suffices all : ∀ n : Nat, (∀ phrase p, p.remaining = n → P phrase p) ∧
      ∀ level left p, p.remaining = n → Q level left p from
    ⟨fun phrase p => (all _).1 phrase p rfl, fun level left p => (all _).2 level left p rfl⟩
  intro n
  induction n using Nat.strongRecOn with
  | ind n ih =>
      -- the rules use each other at the same parser too: factor first, then the tighter chain
      have hfactor : ∀ p : Parser, p.remaining = n → P .factor p := by
        rintro p rfl
        refine factor p fun q hparen hadvance => ?_
        have shorter : q.remaining < p.remaining :=
          remaining_of_advance (p := { p with nesting := p.nesting + 1 }) hadvance
            (by simp [Token.isEnd, hparen])
        exact (ih _ shorter).1 _ q rfl
      have hmore : ∀ level left (p : Parser), p.remaining = n → Q level left p := by
        rintro level left p rfl
        refine more level left p fun op q hop hadvance => ?_
        have shorter : q.remaining < p.remaining :=
          remaining_of_advance hadvance (isEnd_eq_false_of_operatorAt? hop)
        refine ⟨(ih _ shorter).1 _ q rfl, fun right r hright => ?_⟩
        exact (ih _ (Nat.lt_trans (remaining_lt_of_read hright) shorter)).2 _ _ r rfl
      have hchain : ∀ level (p : Parser), p.remaining = n → P level.operand p →
          P (.chain level) p := by
        rintro level p rfl operand
        exact chain level p operand fun first q hfirst =>
          (ih _ (remaining_lt_of_read hfirst)).2 _ _ q rfl
      have hterm : ∀ p : Parser, p.remaining = n → P .term p := fun p hp =>
        hchain .product p hp (hfactor p hp)
      refine ⟨fun phrase p hp => ?_, hmore⟩
      cases phrase with
      | factor => exact hfactor p hp
      | chain level =>
          cases level with
          | sum => exact hchain .sum p hp (hterm p hp)
          | product => exact hterm p hp

/-! ## What a parser has before it -/

/-- The tokens that a parser has before it, its current one first, up to the end of the input or the
first failure of its lexer. -/
def ahead (p : Parser) : List Token × Option Fault :=
  if p.current.isEnd then ([p.current], none) else p.current.followedBy p.lexer.tokens

/-- The number of open groups does not matter to what lies ahead. -/
@[simp] lemma ahead_nesting (p : Parser) (n : Int) : ahead { p with nesting := n } = p.ahead := rfl

/-- The current token is the first of those ahead. -/
lemma ahead_eq_cons (p : Parser) : ∃ later, p.ahead.1 = p.current :: later := by
  unfold ahead
  split
  · exact ⟨[], rfl⟩
  · exact ⟨_, rfl⟩

/-- The first of the tokens ahead is the current one. -/
lemma current_of_ahead {p : Parser} {token : Token} {later : List Token} {fault : Option Fault}
    (h : p.ahead = (token :: later, fault)) : p.current = token := by
  obtain ⟨rest, hrest⟩ := p.ahead_eq_cons
  rw [h] at hrest
  exact (List.cons.inj hrest).1.symm

/-- The end of the input is the last token ahead. -/
lemma ahead_of_isEnd {p : Parser} (h : p.current.isEnd = true) : p.ahead = ([p.current], none) := by
  rw [ahead, if_pos h]

/-- A parser that consumes a token has asked its lexer once. -/
lemma next_of_advance {p q : Parser} (h : p.advance = .ok q) :
    p.lexer.next = (.ok q.current, q.lexer) := by
  unfold advance at h
  split at h <;> cases h
  assumption

/-- Consuming a token takes it off what lies ahead. -/
lemma ahead_of_advance {p q : Parser} (h : p.advance = .ok q) (notEnd : p.current.isEnd = false) :
    p.ahead = p.current.followedBy q.ahead := by
  rw [ahead, if_neg (by simp [notEnd]), Lexer.tokens_eq]
  unfold advance at h
  split at h
  · rename_i hnext
    cases h
    simp only [hnext]
    rfl
  · cases h

/-- Where the next token cannot be fetched, the current one is the last ahead. -/
lemma ahead_of_advance_error {p : Parser} {stopped : Stopped} (h : p.advance = .error stopped)
    (notEnd : p.current.isEnd = false) : p.ahead = ([p.current], some stopped.fault) := by
  rw [ahead, if_neg (by simp [notEnd]), Lexer.tokens_eq]
  unfold advance at h
  split at h
  · cases h
  · rename_i hnext
    cases h
    simp only [hnext]
    rfl

/-- Where more than one token lies ahead, the first of them can be consumed. -/
lemma exists_advance {p : Parser} {token : Token} {later : List Token} {fault : Option Fault}
    (h : p.ahead = (token :: later, fault)) (notLast : later ≠ []) :
    ∃ q, p.advance = .ok q ∧ q.ahead = (later, fault) := by
  have notEnd : p.current.isEnd = false := by
    by_contra isEnd
    rw [ahead_of_isEnd (by simpa using isEnd)] at h
    simp_all
  cases hadvance : p.advance with
  | error stopped =>
      rw [ahead_of_advance_error hadvance notEnd] at h
      simp_all
  | ok q =>
      refine ⟨q, rfl, ?_⟩
      rw [ahead_of_advance hadvance notEnd, Token.followedBy] at h
      simp only [Prod.mk.injEq, List.cons.injEq] at h
      exact Prod.ext h.1.2 h.2

/-- Consuming a token opens and closes nothing. -/
lemma nesting_of_advance {p q : Parser} (h : p.advance = .ok q) : q.nesting = p.nesting := by
  unfold advance at h
  split at h <;> cases h
  rfl

/-- Consuming a token leaves the handling of trailing tokens alone. -/
lemma allowTrailing_of_advance {p q : Parser} (h : p.advance = .ok q) :
    q.allowTrailing = p.allowTrailing := by
  unfold advance at h
  split at h <;> cases h
  rfl

/-- A parser starts with the stream of its lexer ahead of it, no group open. -/
lemma ahead_of_start {lexer : Lexer} {allowTrailing : Bool} {p : Parser}
    (h : start lexer allowTrailing = .ok p) :
    p.ahead = lexer.tokens ∧ p.nesting = 0 ∧ p.allowTrailing = allowTrailing := by
  rw [Lexer.tokens_eq]
  unfold start at h
  split at h <;> cases h
  rename_i hnext
  refine ⟨?_, rfl, rfl⟩
  simp only [hnext]
  rfl

/-- A parser cannot start where its lexer fails on the first token. -/
lemma tokens_of_start_error {lexer lexer' : Lexer} {allowTrailing : Bool} {fault : Fault}
    (h : start lexer allowTrailing = .error (fault, lexer')) : lexer.tokens = ([], some fault) := by
  rw [Lexer.tokens_eq]
  unfold start at h
  split at h <;> cases h
  rename_i hnext
  simp only [hnext]

end Parser

/-- A source is read from its first token on by the rule for an expression; what is left behind it
must be the end of the input, unless trailing tokens are allowed. -/
lemma parseExpr_eq (source : String) (allowTrailing : Bool) :
    parseExpr source allowTrailing =
      match Parser.start (.ofSource source) allowTrailing with
      | .error (fault, _) => .error (fault.diagnostic source)
      | .ok p =>
          match Parser.read .expression p with
          | .error stopped => .error (stopped.fault.diagnostic source)
          | .ok (tree, q) =>
              if q.current.isEnd || q.allowTrailing then .ok tree
              else .error ((q.complain .trailing).fault.diagnostic source) := by
  rw [parseExpr, parseSource]
  cases Parser.start (.ofSource source) allowTrailing with
  | error stopped => rfl
  | ok p =>
      simp only [Parser.parse]
      change _ = match Parser.expression p with
        | .error stopped => _
        | .ok (tree, q) => _
      cases p.expression with
      | error stopped => rfl
      | ok answer =>
          obtain ⟨tree, q⟩ := answer
          cases hend : q.current.isEnd || q.allowTrailing <;> simp only [hend] <;> rfl

end Calculator
