import Calculator.Proofs.Lexer.Division
import Calculator.Proofs.Parser.Record

/-!
# Runs of the parser that are alike

The parser looks at symbols. Positions pass through it: from the tokens to its complaints and to the
record of what was handed out. So on two streams that are alike it does the same, and what it hands
back differs in positions that correspond.

* Two parsers are alike if what lies ahead of them is, what they were handed is, and the rest of
  their states is equal (`Parser.Alike`). Consuming a token keeps this, or fails on both sides
  (`Parser.Alike.advance`).
* **Every rule answers alike to parsers that are alike** (`Parser.respects`), by the induction over
  the rules.
* So two sources with streams that are alike are parsed alike, the record included
  (`parseSource_alike`).
-/

namespace Calculator

variable {same : Nat → Nat → Prop}

/-- Tokens that are alike are recorded alike. -/
lemma Lexer.forall₂_record {recorded recorded' : Array Token} {token token' : Token}
    (h : List.Forall₂ (Token.Alike same) recorded.toList recorded'.toList)
    (last : Token.Alike same token token') :
    List.Forall₂ (Token.Alike same) (record recorded token).toList
      (record recorded' token').toList := by
  have back : ∀ array : Array Token, array.back?.any Token.isEnd =
      (array.toList.map Token.symbol).getLast?.any (· = .endOfInput) := by
    intro array
    rw [List.getLast?_map, Option.any_map, Array.getLast?_toList]
    rfl
  have ended : recorded.back?.any Token.isEnd = recorded'.back?.any Token.isEnd := by
    rw [back, back, map_symbol_of_forall₂ h]
  rw [record, record, ← ended]
  split
  · exact h
  · rw [Array.toList_push, Array.toList_push]
    exact List.rel_append h (.cons last .nil)

/-! ## Parsers and answers that are alike -/

/-- Two faults and the records at the moment when they were met are alike. -/
structure Stopped.Alike (same : Nat → Nat → Prop) (stopped stopped' : Stopped) : Prop where
  /-- The faults are alike. -/
  fault : Fault.Alike same stopped.fault stopped'.fault
  /-- So are the records. -/
  recorded : List.Forall₂ (Token.Alike same) stopped.parser.lexer.recorded.toList
    stopped'.parser.lexer.recorded.toList

/-- Two answers are alike: both successes, with results that are related, or both faults. -/
inductive AnswersAlike (same : Nat → Nat → Prop) {α : Type} (related : α → α → Prop) :
    Except Stopped α → Except Stopped α → Prop
  /-- Both succeed. -/
  | ok {result result' : α} (h : related result result') :
      AnswersAlike same related (.ok result) (.ok result')
  /-- Both stop. -/
  | error {stopped stopped' : Stopped} (h : Stopped.Alike same stopped stopped') :
      AnswersAlike same related (.error stopped) (.error stopped')

namespace Parser

/-- Two parsers have streams ahead and records that are alike, and otherwise equal states. -/
structure Alike (same : Nat → Nat → Prop) (p p' : Parser) : Prop where
  /-- What lies ahead is alike. -/
  ahead : StreamsAlike same p.ahead p'.ahead
  /-- What was handed out is alike. -/
  recorded : List.Forall₂ (Token.Alike same) p.lexer.recorded.toList p'.lexer.recorded.toList
  /-- As many groups are open. -/
  nesting : p.nesting = p'.nesting
  /-- Trailing tokens are handled in the same way. -/
  allowTrailing : p.allowTrailing = p'.allowTrailing

/-- Two rules that succeed have read one tree, and the parsers behind them are alike. -/
inductive ReadAlike (same : Nat → Nat → Prop) : Expr × Parser → Expr × Parser → Prop
  /-- One tree, and parsers that are alike. -/
  | intro {q q' : Parser} (tree : Expr) (h : Alike same q q') : ReadAlike same (tree, q) (tree, q')

namespace Alike

variable {p p' : Parser}

/-- The current tokens are alike. -/
lemma current (h : Alike same p p') : Token.Alike same p.current p'.current := by
  obtain ⟨later, hlater⟩ := p.ahead_eq_cons
  obtain ⟨later', hlater'⟩ := p'.ahead_eq_cons
  have tokens := h.ahead.tokens
  rw [hlater, hlater'] at tokens
  exact (List.forall₂_cons.mp tokens).1

/-- The number of open groups may be changed on both sides. -/
lemma withNesting (h : Alike same p p') (n : Int) :
    Alike same { p with nesting := n } { p' with nesting := n } :=
  ⟨h.ahead, h.recorded, rfl, h.allowTrailing⟩

/-- Complaints about the current tokens are alike. -/
lemma complain (h : Alike same p p') (complaint : Complaint) :
    Stopped.Alike same (p.complain complaint) (p'.complain complaint) where
  fault := ⟨congrArg (Cause.misplaced complaint) h.current.symbol, h.current.pos⟩
  recorded := h.recorded

/-- **One step.** Consuming a token keeps parsers alike, or fails on both sides. -/
lemma advance (h : Alike same p p') (notEnd : p.current.isEnd = false) :
    AnswersAlike same (Alike same) p.advance p'.advance := by
  have notEnd' : p'.current.isEnd = false := by rw [← h.current.isEnd, notEnd]
  have streams := h.ahead
  cases hadvance : p.advance with
  | error stopped =>
      rw [ahead_of_advance_error hadvance notEnd] at streams
      cases hadvance' : p'.advance with
      | error stopped' =>
          rw [ahead_of_advance_error hadvance' notEnd'] at streams
          refine .error ⟨?_, ?_⟩
          · cases streams.fault with
            | some fault => exact fault
          · rw [recorded_of_advance_error hadvance, recorded_of_advance_error hadvance']
            exact h.recorded
      | ok q' =>
          -- a second token lies ahead on one side only
          obtain ⟨later, hlater⟩ := q'.ahead_eq_cons
          rw [ahead_of_advance hadvance' notEnd', Token.followedBy, hlater] at streams
          cases (List.forall₂_cons.mp streams.tokens).2
  | ok q =>
      rw [ahead_of_advance hadvance notEnd] at streams
      cases hadvance' : p'.advance with
      | error stopped' =>
          obtain ⟨later, hlater⟩ := q.ahead_eq_cons
          rw [ahead_of_advance_error hadvance' notEnd', Token.followedBy, hlater] at streams
          cases (List.forall₂_cons.mp streams.tokens).2
      | ok q' =>
          rw [ahead_of_advance hadvance' notEnd'] at streams
          have later : StreamsAlike same q.ahead q'.ahead :=
            ⟨(List.forall₂_cons.mp streams.tokens).2, streams.fault⟩
          obtain ⟨first, hfirst⟩ := q.ahead_eq_cons
          obtain ⟨first', hfirst'⟩ := q'.ahead_eq_cons
          have tokens := later.tokens
          rw [hfirst, hfirst'] at tokens
          refine .ok ⟨later, ?_, ?_, ?_⟩
          · rw [recorded_of_advance hadvance, recorded_of_advance hadvance']
            exact Lexer.forall₂_record h.recorded (List.forall₂_cons.mp tokens).1
          · rw [nesting_of_advance hadvance, nesting_of_advance hadvance', h.nesting]
          · rw [allowTrailing_of_advance hadvance, allowTrailing_of_advance hadvance',
              h.allowTrailing]

/-- Behind the expression inside a group, both find the parenthesis that closes it, or both
complain. -/
lemma close (h : Alike same p p') (tree : Expr) :
    AnswersAlike same (ReadAlike same)
      (if p.current.symbol = .rightParen then
        match p.advance with
        | .error stopped => .error stopped
        | .ok q => .ok (tree, { q with nesting := q.nesting - 1 })
      else .error (p.complain .missingParenthesis))
      (if p'.current.symbol = .rightParen then
        match p'.advance with
        | .error stopped => .error stopped
        | .ok q => .ok (tree, { q with nesting := q.nesting - 1 })
      else .error (p'.complain .missingParenthesis)) := by
  rw [← h.current.symbol]
  by_cases hclose : p.current.symbol = .rightParen
  · rw [if_pos hclose, if_pos hclose]
    have step := h.advance (by simp [Token.isEnd, hclose])
    generalize p.advance = answer at step ⊢
    generalize p'.advance = answer' at step ⊢
    cases step with
    | error stopped => exact .error stopped
    | ok closed =>
        simp only [← closed.nesting]
        exact .ok (.intro tree (closed.withNesting _))
  · rw [if_neg hclose, if_neg hclose]
    exact .error (h.complain .missingParenthesis)

end Alike

/-! ## Rules -/

/-- The rule for a phrase answers alike to a parser and to any that is alike. -/
def Respects (same : Nat → Nat → Prop) (phrase : Phrase) (p : Parser) : Prop :=
  ∀ p', Alike same p p' → AnswersAlike same (ReadAlike same) (read phrase p) (read phrase p')

/-- The loop over the rest of a chain answers alike to a parser and to any that is alike. -/
def RespectsMore (same : Nat → Nat → Prop) (level : Level) (left : Expr) (p : Parser) : Prop :=
  ∀ p', Alike same p p' →
    AnswersAlike same (ReadAlike same) (more level left p) (more level left p')

/-- The rule for a factor does, if the rule for the expression inside a group does. -/
lemma respects_factor (p : Parser)
    (inner : ∀ q, p.current.symbol = .leftParen →
      advance { p with nesting := p.nesting + 1 } = .ok q → Respects same .expression q) :
    Respects same .factor p := by
  intro p' h
  rw [read, read, factor_eq, factor_eq, ← h.current.symbol, ← h.nesting]
  cases hsymbol : p.current.symbol with
  | number value =>
      have step := h.advance (by simp [Token.isEnd, hsymbol])
      generalize p.advance = answer at step ⊢
      generalize p'.advance = answer' at step ⊢
      cases step with
      | error stopped => exact .error stopped
      | ok behind => exact .ok (.intro _ behind)
  | leftParen =>
      by_cases hfull : maxNesting ≤ p.nesting
      · simp only [hfull, if_true]
        exact .error (h.complain .nestedTooDeeply)
      · simp only [hfull, if_false]
        have step := (h.withNesting (p.nesting + 1)).advance (by simp [Token.isEnd, hsymbol])
        generalize hadvance : Parser.advance { p with nesting := p.nesting + 1 } = answer at step ⊢
        generalize Parser.advance { p' with nesting := p.nesting + 1 } = answer' at step ⊢
        cases step with
        | error stopped => exact .error stopped
        | @ok q q' opened =>
            have inside := inner q hsymbol hadvance q' opened
            simp only
            change AnswersAlike same (ReadAlike same) q.expression q'.expression at inside
            generalize q.expression = answer at inside ⊢
            generalize q'.expression = answer' at inside ⊢
            cases inside with
            | error stopped => exact .error stopped
            | ok result =>
                cases result with
                | intro tree behind => exact behind.close tree
  | _ => exact .error (h.complain .unexpected)

/-- The rule for a chain does, if the rule for its operands and the loop behind the first one do. -/
lemma respects_chain (level : Level) (p : Parser) (operand : Respects same level.operand p)
    (links : ∀ first q, read level.operand p = .ok (first, q) → RespectsMore same level first q) :
    Respects same (.chain level) p := by
  intro p' h
  have first := operand p' h
  rw [read_chain, read_chain]
  generalize hread : read level.operand p = answer at first ⊢
  generalize read level.operand p' = answer' at first ⊢
  cases first with
  | error stopped => exact .error stopped
  | ok result =>
      cases result with
      | intro tree behind => exact links tree _ hread _ behind

/-- The loop over the rest of a chain does, if the operand of the next link and the loop behind it
do. -/
lemma respectsMore (level : Level) (left : Expr) (p : Parser)
    (link : ∀ op q, p.operatorAt? level = some op → p.advance = .ok q →
      Respects same level.operand q ∧ ∀ right r, read level.operand q = .ok (right, r) →
        RespectsMore same level (.node op left right) r) :
    RespectsMore same level left p := by
  intro p' h
  have operator : p'.operatorAt? level = p.operatorAt? level := by
    rw [operatorAt?, operatorAt?, h.current.symbol]
  rw [more_eq level left p, more_eq level left p', operator]
  cases hop : p.operatorAt? level with
  | none => exact .ok (.intro left h)
  | some op =>
      have step := h.advance (isEnd_eq_false_of_operatorAt? hop)
      generalize hadvance : p.advance = answer at step ⊢
      generalize p'.advance = answer' at step ⊢
      cases step with
      | error stopped => exact .error stopped
      | @ok q q' behind =>
          obtain ⟨operand, further⟩ := link op q hop hadvance
          have next := operand q' behind
          simp only [operandOf_eq_read]
          generalize hread : read level.operand q = answer at next ⊢
          generalize read level.operand q' = answer' at next ⊢
          cases next with
          | error stopped => exact .error stopped
          | ok result =>
              cases result with
              | intro right behind => exact further right _ hread _ behind

/-- **Every rule answers alike to parsers that are alike.** -/
theorem respects (phrase : Phrase) (p : Parser) : Respects same phrase p :=
  (rules_induction respects_factor respects_chain respectsMore).1 phrase p

end Parser

/-! ## Whole sources -/

/-- A parser starts at the first token of its source. -/
lemma Parser.exists_tokenize_of_start {source : String} {allowTrailing : Bool} {p : Parser}
    (h : start (.ofSource source) allowTrailing = .ok p) :
    ∃ later, (tokenize source).1 = p.current :: later := by
  have ahead : p.ahead = tokenize source := (ahead_of_start h).1
  rw [← ahead]
  exact p.ahead_eq_cons

/-- Parsers that start on streams that are alike are alike. -/
lemma Parser.Alike.of_start {source source' : String} {allowTrailing : Bool} {p p' : Parser}
    (h : start (.ofSource source) allowTrailing = .ok p)
    (h' : start (.ofSource source') allowTrailing = .ok p')
    (streams : StreamsAlike same (tokenize source) (tokenize source')) : Alike same p p' := by
  obtain ⟨ahead, nesting, trailing⟩ := ahead_of_start h
  obtain ⟨ahead', nesting', trailing'⟩ := ahead_of_start h'
  have further : StreamsAlike same p.ahead p'.ahead := by
    rw [ahead, ahead']
    exact streams
  obtain ⟨later, hlater⟩ := exists_tokenize_of_start h
  obtain ⟨later', hlater'⟩ := exists_tokenize_of_start h'
  have tokens := streams.tokens
  rw [hlater, hlater'] at tokens
  refine ⟨further, ?_, nesting.trans nesting'.symm, trailing.trans trailing'.symm⟩
  rw [recorded_of_start h, recorded_of_start h']
  exact Lexer.forall₂_record .nil (List.forall₂_cons.mp tokens).1

/-- Two sources came to the same tree or to faults that are alike, with records that are alike. -/
inductive Parsed.Alike (same : Nat → Nat → Prop) : Parsed → Parsed → Prop
  /-- Both came to a tree. -/
  | tree {tree : Expr} {lexer lexer' : Lexer}
      (recorded : List.Forall₂ (Token.Alike same) lexer.recorded.toList lexer'.recorded.toList) :
      Parsed.Alike same ⟨.ok tree, lexer⟩ ⟨.ok tree, lexer'⟩
  /-- Both came to a fault. -/
  | fault {fault fault' : Fault} {lexer lexer' : Lexer} (h : Fault.Alike same fault fault')
      (recorded : List.Forall₂ (Token.Alike same) lexer.recorded.toList lexer'.recorded.toList) :
      Parsed.Alike same ⟨.error fault, lexer⟩ ⟨.error fault', lexer'⟩

/-- A parser that has started goes on as one does that is alike. -/
lemma Parser.Alike.parse {p p' : Parser} (h : Alike same p p') :
    AnswersAlike same (ReadAlike same) p.parse p'.parse := by
  have read := respects .expression p p' h
  change AnswersAlike same (ReadAlike same) p.expression p'.expression at read
  rw [Parser.parse, Parser.parse]
  generalize p.expression = answer at read ⊢
  generalize p'.expression = answer' at read ⊢
  cases read with
  | error stopped => exact .error stopped
  | ok result =>
      cases result with
      | @intro q q' tree behind =>
          simp only [← behind.current.isEnd, ← behind.allowTrailing]
          by_cases admitted : (q.current.isEnd || q.allowTrailing) = true
          · simp only [admitted, if_true]
            exact .ok (.intro tree behind)
          · simp only [admitted]
            exact .error (behind.complain .trailing)

/-- **Sources with streams that are alike are parsed alike.** -/
theorem parseSource_alike {source source' : String}
    (streams : StreamsAlike same (tokenize source) (tokenize source')) (allowTrailing : Bool) :
    Parsed.Alike same (parseSource source allowTrailing) (parseSource source' allowTrailing) := by
  rw [parseSource, parseSource]
  cases hstart : Parser.start (.ofSource source) allowTrailing with
  | error stopped =>
      obtain ⟨fault, lexer⟩ := stopped
      have tokens : tokenize source = ([], some fault) := Parser.tokens_of_start_error hstart
      rw [tokens] at streams
      cases hstart' : Parser.start (.ofSource source') allowTrailing with
      | error stopped' =>
          obtain ⟨fault', lexer'⟩ := stopped'
          have tokens' : tokenize source' = ([], some fault') :=
            Parser.tokens_of_start_error hstart'
          rw [tokens'] at streams
          cases streams.fault with
          | some alike =>
              refine .fault alike ?_
              rw [Parser.recorded_of_start_error hstart, Parser.recorded_of_start_error hstart']
              exact .nil
      | ok p' =>
          -- a token lies ahead on one side only
          obtain ⟨later, first⟩ := Parser.exists_tokenize_of_start hstart'
          have ahead := streams.tokens
          rw [first] at ahead
          cases ahead
  | ok p =>
      cases hstart' : Parser.start (.ofSource source') allowTrailing with
      | error stopped' =>
          obtain ⟨later, first⟩ := Parser.exists_tokenize_of_start hstart
          have tokens' : tokenize source' = ([], some stopped'.1) :=
            Parser.tokens_of_start_error hstart'
          have ahead := streams.tokens
          rw [first, tokens'] at ahead
          cases ahead
      | ok p' =>
          have answers := (Parser.Alike.of_start hstart hstart' streams).parse
          simp only
          generalize p.parse = answer at answers ⊢
          generalize p'.parse = answer' at answers ⊢
          cases answers with
          | error stopped => exact .fault stopped.fault stopped.recorded
          | ok result =>
              cases result with
              | intro tree behind => exact .tree behind.recorded

end Calculator
