import Calculator.Proofs.Parser.Recognition

/-!
# The parser as an automaton

Whether a source is an expression, and where and why it is not, is decided by one scan from the left
with a counter. The automaton knows whether it waits for an operand or for an operator, and how many
parentheses are open (`Stance`); `Stance.move` is its table, with the words of every complaint.

The parser has its complaints in four functions and at different depths of the recursion.
`Parser.follows` ties the two together: a parser with `opened` groups open, at a rule, is the
automaton waiting for an operand with the same count, and behind the rule it is the automaton waiting
for an operator. What a rule calls and where it returns to does not show in the automaton, for an
operator of either level leads to the same stance.

* `parseExpr_refines_verdict`: the parser accepts what the automaton accepts, and otherwise reports what
  the automaton reports.
-/

namespace Calculator

/-! ## The automaton -/

/-- What the automaton waits for, and how many parentheses are open. -/
inductive Stance
  /-- An operand has to follow. -/
  | operand (opened : Nat)
  /-- An operand is complete. -/
  | operator (opened : Nat)
deriving DecidableEq

/-- What the automaton does on a symbol. -/
inductive Move
  /-- It goes on to the next token. -/
  | go (stance : Stance)
  /-- It accepts, whatever follows. -/
  | accept
  /-- It complains about the token. -/
  | reject (words : String)
deriving DecidableEq

/-- The table of the automaton. -/
def Stance.move (allowTrailing : Bool) : Stance → Symbol → Move
  | operand opened, .number _ => .go (operator opened)
  | operand opened, .leftParen =>
      if 200 ≤ opened then .reject "expression too deeply nested" else .go (operand (opened + 1))
  | operand _, _ => .reject "unexpected token"
  | operator opened, .operator _ => .go (operand opened)
  | operator (opened + 1), .rightParen => .go (operator opened)
  | operator (_ + 1), _ => .reject "missing closing parenthesis"
  | operator 0, .endOfInput => .accept
  | operator 0, _ => if allowTrailing then .accept else .reject "unexpected token after expression"

/-- A complaint about a token of a source, as it is reported. -/
def Token.objection (token : Token) (source words : String) : Diagnostic where
  kind := .syntactic
  message := words ++ if token.isEnd then ": end of input" else ": " ++ token.symbol.shown
  place := some ⟨source, token.pos⟩

/-- The failure of the lexer, as it is reported. -/
def Fault.lexError (fault : Fault) (source : String) : Diagnostic where
  kind := .lexical
  message := fault.cause.message
  place := some ⟨source, fault.pos⟩

/-- The scan over a stream of tokens of a source. It needs one token after another and stops at the
first that decides; where the lexer fails before that, its failure is the answer. -/
def Stance.scan (source : String) (allowTrailing : Bool) (fault : Option Fault) :
    Stance → List Token → Option (Except Diagnostic Unit)
  | _, [] => fault.map fun fault => .error (fault.lexError source)
  | stance, token :: later =>
      match stance.move allowTrailing token.symbol with
      | .go next => next.scan source allowTrailing fault later
      | .accept => some (.ok ())
      | .reject words => some (.error (token.objection source words))

/-- The verdict of the automaton on a source; there would be none if the tokens ran out. -/
def verdict (source : String) (allowTrailing : Bool) : Option (Except Diagnostic Unit) :=
  (Stance.operand 0).scan source allowTrailing (tokenize source).2 (tokenize source).1

/-! ## Rules against stances -/

namespace Parser

variable {source : String} {allowTrailing : Bool}

/-- The scan over what a parser has before it. -/
def scanAhead (p : Parser) (source : String) (allowTrailing : Bool) (stance : Stance) :
    Option (Except Diagnostic Unit) :=
  stance.scan source allowTrailing p.ahead.2 p.ahead.1

/-- A failure that lies ahead is one of the lexer. -/
lemma kind_of_ahead {p : Parser} {tokens : List Token} {fault : Fault}
    (h : p.ahead = (tokens, some fault)) : fault.cause.kind = .lexical := by
  unfold ahead at h
  split at h
  · cases h
  · rw [Lexer.tokens_eq_tokensAt] at h
    exact kind_of_tokensAt (Prod.mk.inj h).2

/-- Where the automaton goes on at the current token, so does the parser; and where there is no next
token, both report the failure of the lexer. -/
lemma scanAhead_of_go {p : Parser} {stance next : Stance} (notEnd : p.current.isEnd = false)
    (h : stance.move allowTrailing p.current.symbol = .go next) :
    p.scanAhead source allowTrailing stance =
      match p.advance with
      | .error stopped => some (.error (stopped.fault.diagnostic source))
      | .ok q => q.scanAhead source allowTrailing next := by
  cases hadvance : p.advance with
  | error stopped =>
      have hahead := ahead_of_advance_error hadvance notEnd
      have report : stopped.fault.lexError source = stopped.fault.diagnostic source := by
        rw [Fault.lexError, Fault.diagnostic, kind_of_ahead hahead]
      simp only [scanAhead, hahead, Stance.scan, h, Option.map_some, report]
  | ok q =>
      simp only [scanAhead, ahead_of_advance hadvance notEnd, Token.followedBy, Stance.scan, h]

/-- A complaint of the grammar about a token is worded as the objection to it. -/
lemma objection_eq (token : Token) (source : String) (complaint : Complaint) :
    token.objection source complaint.message =
      Fault.diagnostic ⟨.misplaced complaint token.symbol, token.pos⟩ source := by
  have words : (Cause.misplaced complaint token.symbol).message =
      complaint.message ++ if token.isEnd then ": end of input" else ": " ++ token.symbol.shown := by
    unfold Token.isEnd
    cases token.symbol with
    | endOfInput => rfl
    | _ => exact String.append_assoc
  rw [Token.objection, Fault.diagnostic, words]
  rfl

/-- Where the automaton complains about the current token, the parser may do so in its own terms. -/
lemma scanAhead_of_reject {p : Parser} {stance : Stance} (complaint : Complaint)
    (h : stance.move allowTrailing p.current.symbol = .reject complaint.message) :
    p.scanAhead source allowTrailing stance =
      some (.error ((p.complain complaint).fault.diagnostic source)) := by
  obtain ⟨later, hlater⟩ := p.ahead_eq_cons
  simp only [scanAhead, hlater, Stance.scan, h, objection_eq]
  rfl

/-- What becomes of the scan behind a rule: a fault ends it, and otherwise an operand is complete. -/
def settle (source : String) (allowTrailing : Bool) (opened : Nat) :
    Except Stopped (Expr × Parser) → Option (Except Diagnostic Unit)
  | .error stopped => some (.error (stopped.fault.diagnostic source))
  | .ok (_, q) => q.scanAhead source allowTrailing (.operator opened)

/-- Behind an expression inside a group there is a closing parenthesis or a complaint. -/
lemma scanAhead_of_close {p : Parser} (opened : Nat)
    (hstop : Phrase.expression.continues p.current.symbol = false) :
    p.scanAhead source allowTrailing (.operator (opened + 1)) =
      if p.current.symbol = .rightParen then
        match p.advance with
        | .error stopped => some (.error (stopped.fault.diagnostic source))
        | .ok q => q.scanAhead source allowTrailing (.operator opened)
      else some (.error ((p.complain .missingParenthesis).fault.diagnostic source)) := by
  split
  · rename_i hclose
    exact scanAhead_of_go (by simp [Token.isEnd, hclose]) (by rw [hclose]; rfl)
  · rename_i hclose
    apply scanAhead_of_reject
    cases hsymbol : p.current.symbol with
    | operator op =>
        rw [hsymbol] at hstop
        cases op <;> cases hstop
    | rightParen => exact absurd hsymbol hclose
    | _ => rfl

/-- The rule for a phrase goes as the automaton goes that waits for an operand: what the rule answers
settles the scan. -/
def Follows (source : String) (allowTrailing : Bool) (phrase : Phrase) (p : Parser) : Prop :=
  ∀ opened : Nat, p.nesting = opened →
    p.scanAhead source allowTrailing (.operand opened) =
      settle source allowTrailing opened (read phrase p)

/-- The loop over the rest of a chain goes as the automaton goes that waits for an operator. -/
def FollowsMore (source : String) (allowTrailing : Bool) (level : Level) (left : Expr)
    (p : Parser) : Prop :=
  ∀ opened : Nat, p.nesting = opened →
    p.scanAhead source allowTrailing (.operator opened) =
      settle source allowTrailing opened (more level left p)

/-- Inside a group that was just opened there is an expression, and behind it the parenthesis that
closes the group. -/
lemma scanAhead_of_open {p q : Parser} {opened : Nat} (hnesting : q.nesting = p.nesting + 1)
    (hopened : p.nesting = opened) (inner : Follows source allowTrailing .expression q) :
    q.scanAhead source allowTrailing (.operand (opened + 1)) =
      settle source allowTrailing opened
        (match q.expression with
        | .error stopped => .error stopped
        | .ok (inner, r) =>
            if r.current.symbol = .rightParen then
              match r.advance with
              | .error stopped => .error stopped
              | .ok s => .ok (inner, { s with nesting := s.nesting - 1 })
            else .error (r.complain .missingParenthesis)) := by
  have same : read .expression q = q.expression := rfl
  rw [inner (opened + 1) (by omega), same]
  cases hexpression : q.expression with
  | error stopped => rfl
  | ok answer =>
      obtain ⟨tree, r⟩ := answer
      obtain ⟨_, took⟩ := read_sound (same.trans hexpression)
      rw [settle, scanAhead_of_close opened took.stops]
      simp only
      by_cases hclose : r.current.symbol = .rightParen
      · rw [if_pos hclose, if_pos hclose]
        cases r.advance <;> rfl
      · rw [if_neg hclose, if_neg hclose]
        rfl

/-- The rule for a factor follows the automaton, if the rule for the expression inside a group
does. -/
lemma follows_factor (p : Parser)
    (inner : ∀ q, p.current.symbol = .leftParen → advance { p with nesting := p.nesting + 1 } = .ok q →
      Follows source allowTrailing .expression q) : Follows source allowTrailing .factor p := by
  intro opened hopened
  rw [read, factor_eq]
  split
  · rename_i value hsymbol
    rw [scanAhead_of_go (by simp [Token.isEnd, hsymbol]) (by rw [hsymbol]; rfl)]
    cases p.advance <;> rfl
  · rename_i hsymbol
    have full_iff : maxNesting ≤ p.nesting ↔ 200 ≤ opened := by
      rw [maxNesting]
      omega
    by_cases hfull : maxNesting ≤ p.nesting
    · rw [if_pos hfull]
      apply scanAhead_of_reject
      simp only [hsymbol, Stance.move, full_iff.mp hfull, if_true]
      rfl
    · rw [if_neg hfull]
      have opens : p.scanAhead source allowTrailing (.operand opened) =
          scanAhead { p with nesting := p.nesting + 1 } source allowTrailing (.operand opened) := rfl
      rw [opens, scanAhead_of_go (by simp [Token.isEnd, hsymbol])
        (by rw [hsymbol, Stance.move, if_neg (full_iff.not.mp hfull)])]
      cases hadvance : advance { p with nesting := p.nesting + 1 } with
      | error stopped => rfl
      | ok q =>
          exact scanAhead_of_open (nesting_of_advance hadvance) hopened (inner q hsymbol hadvance)
  · rename_i hnumber hparen
    apply scanAhead_of_reject
    cases hsymbol : p.current.symbol with
    | number value => exact absurd hsymbol (hnumber value)
    | leftParen => exact absurd hsymbol hparen
    | _ => rfl

/-- The rule for a chain follows the automaton, if the rule for its operands and the loop behind the
first one do. -/
lemma follows_chain (level : Level) (p : Parser)
    (operand : Follows source allowTrailing level.operand p)
    (links : ∀ first q, read level.operand p = .ok (first, q) →
      FollowsMore source allowTrailing level first q) :
    Follows source allowTrailing (.chain level) p := by
  intro opened hopened
  rw [operand opened hopened, read_chain]
  cases hread : read level.operand p with
  | error stopped => rfl
  | ok answer =>
      obtain ⟨first, q⟩ := answer
      obtain ⟨_, took⟩ := read_sound hread
      exact links first q hread opened (took.nesting.trans hopened)

/-- The loop over the rest of a chain follows the automaton, if the operand of the next link and the
loop behind it do. -/
lemma followsMore (level : Level) (left : Expr) (p : Parser)
    (link : ∀ op q, p.operatorAt? level = some op → p.advance = .ok q →
      Follows source allowTrailing level.operand q ∧
        ∀ right r, read level.operand q = .ok (right, r) →
          FollowsMore source allowTrailing level (.node op left right) r) :
    FollowsMore source allowTrailing level left p := by
  intro opened hopened
  rw [more_eq]
  split
  · rfl
  · rename_i op hop
    obtain ⟨hsymbol, -⟩ := symbol_of_operatorAt? hop
    rw [scanAhead_of_go (isEnd_eq_false_of_operatorAt? hop) (by rw [hsymbol]; rfl)]
    cases hadvance : p.advance with
    | error stopped => rfl
    | ok q =>
        obtain ⟨operand, further⟩ := link op q hop hadvance
        have nesting : q.nesting = opened := (nesting_of_advance hadvance).trans hopened
        simp only [operand opened nesting, operandOf_eq_read]
        cases hread : read level.operand q with
        | error stopped => rfl
        | ok answer =>
            obtain ⟨right, r⟩ := answer
            obtain ⟨_, took⟩ := read_sound hread
            exact further right r hread opened (took.nesting.trans nesting)

/-- **The rules refine the automaton.** At a rule the automaton waits for an operand, and in the rest
of a chain for an operator. -/
theorem follows (source : String) (allowTrailing : Bool) :
    (∀ phrase p, Follows source allowTrailing phrase p) ∧
      ∀ level left p, FollowsMore source allowTrailing level left p :=
  rules_induction follows_factor follows_chain followsMore

/-- Behind a complete expression outside all groups the automaton accepts the end of the input, and
any other token exactly if trailing tokens are allowed. -/
lemma scanAhead_of_complete {p : Parser}
    (hstop : Phrase.expression.continues p.current.symbol = false) :
    p.scanAhead source allowTrailing (.operator 0) =
      if p.current.isEnd || allowTrailing then some (.ok ())
      else some (.error ((p.complain .trailing).fault.diagnostic source)) := by
  obtain ⟨later, hlater⟩ := p.ahead_eq_cons
  by_cases haccept : (p.current.isEnd || allowTrailing) = true
  · have accepted : (Stance.operator 0).move allowTrailing p.current.symbol = .accept := by
      cases hsymbol : p.current.symbol with
      | operator op =>
          rw [hsymbol] at hstop
          cases op <;> cases hstop
      | endOfInput => rfl
      | _ => simp_all [Token.isEnd, Stance.move]
    rw [if_pos haccept]
    simp only [scanAhead, hlater, Stance.scan, accepted]
  · rw [if_neg haccept]
    apply scanAhead_of_reject
    cases hsymbol : p.current.symbol with
    | operator op =>
        rw [hsymbol] at hstop
        cases op <;> cases hstop
    | _ => simp_all [Token.isEnd, Stance.move, Complaint.message]

end Parser

/-- The parser says what the automaton says. -/
lemma verdict_eq (source : String) (allowTrailing : Bool) :
    verdict source allowTrailing = some ((parseExpr source allowTrailing).map fun _ => ()) := by
  rw [verdict, parseExpr_eq]
  cases hstart : Parser.start (.ofSource source) allowTrailing with
  | error stopped =>
      obtain ⟨fault, lexer⟩ := stopped
      have htokens : tokenize source = ([], some fault) := Parser.tokens_of_start_error hstart
      have report : fault.lexError source = fault.diagnostic source := by
        rw [tokenize_eq_tokensAt] at htokens
        rw [Fault.lexError, Fault.diagnostic, kind_of_tokensAt (congrArg Prod.snd htokens)]
      simp only [htokens, Stance.scan, Option.map_some, report]
      rfl
  | ok p =>
      obtain ⟨hahead, hnesting, htrailing⟩ := Parser.ahead_of_start hstart
      have scanned : (Stance.operand 0).scan source allowTrailing (tokenize source).2
          (tokenize source).1 = p.scanAhead source allowTrailing (.operand 0) := by
        rw [Parser.scanAhead, hahead]
        rfl
      rw [scanned, (Parser.follows source allowTrailing).1 .expression p 0 hnesting]
      cases hread : Parser.read .expression p with
      | error stopped =>
          simp only [hread]
          rfl
      | ok answer =>
          obtain ⟨tree, q⟩ := answer
          obtain ⟨_, took⟩ := Parser.read_sound hread
          simp only [hread, Parser.settle, Parser.scanAhead_of_complete took.stops,
            took.allowTrailing, htrailing]
          split <;> rfl

/-- The parser reports what the automaton reports. -/
lemma verdict_eq_error_iff {source : String} {allowTrailing : Bool} {diagnostic : Diagnostic} :
    verdict source allowTrailing = some (.error diagnostic) ↔
      parseExpr source allowTrailing = .error diagnostic := by
  rw [verdict_eq]
  cases parseExpr source allowTrailing with
  | error diagnostic => simp [Except.map]
  | ok tree => simp [Except.map]

/-- **The parser refines the counter automaton**, on every source and with trailing tokens allowed or
not: it accepts exactly what the automaton accepts, and otherwise reports exactly the automaton's
complaint. The automaton always comes to a verdict. -/
theorem parseExpr_refines_verdict (source : String) (allowTrailing : Bool) :
    (verdict source allowTrailing = some (.ok ()) ↔
        ∃ tree, parseExpr source allowTrailing = .ok tree) ∧
      (∀ diagnostic, verdict source allowTrailing = some (.error diagnostic) ↔
        parseExpr source allowTrailing = .error diagnostic) ∧
      verdict source allowTrailing ≠ none := by
  refine ⟨?_, fun diagnostic => verdict_eq_error_iff, ?_⟩
  · rw [verdict_eq]
    cases parseExpr source allowTrailing with
    | error diagnostic => simp [Except.map]
    | ok tree => simp [Except.map]
  · rw [verdict_eq]
    exact Option.some_ne_none _

end Calculator
