import Calculator.Proofs.Lexer.Cursor
import Calculator.Proofs.Parser.Run

/-!
# What the parser has been handed

The lexer records the tokens that it hands out, and the parser asks it for one each time it consumes
one. So the record shows how far the parser has looked.

* The invariant is `Parser.Logged`: the record is the tokens consumed so far and the current one,
  and what was consumed and what lies ahead are the tokens of the source. A parser starts with it
  (`Parser.Logged.of_start`), a step keeps it (`Parser.Logged.advance`), and so does a run
  (`Parser.Logged.run`). The lexer would hand out the end of the input without recording it again;
  no step needs that, for none consumes the end.
* A source leads with an expression if its tokens begin with the symbols of one, within the limit,
  and the next token is none at which the expression would go on (`Leads`). The next token is there
  in any case, for it has to be looked at: at the latest it is the end of the input.
* `HandedOut` has the three ways in which a source is done with, each with its record
  (`handedOut_parseSource`): it leads with an expression, a token is complained about, or the lexer
  fails before either.
-/

namespace Calculator

/-! ## What the lexer records -/

namespace Lexer

/-- Behind a token that is not the end of the input, the next one is recorded. -/
lemma toList_record {recorded : Array Token} {before : List Token} {last : Token}
    (h : recorded.toList = before ++ [last]) (notEnd : last.isEnd = false) (token : Token) :
    (record recorded token).toList = before ++ [last, token] := by
  have back : recorded.back? = some last := by
    rw [← Array.getLast?_toList, h, List.getLast?_concat]
  rw [record, back, Option.any_some, notEnd, if_neg Bool.false_ne_true, Array.toList_push, h,
    List.append_assoc]
  rfl

end Lexer

/-! ## What a parser has been handed -/

namespace Parser

/-- Where a token is consumed, the next one is recorded. -/
lemma recorded_of_advance {p q : Parser} (h : p.advance = .ok q) :
    q.lexer.recorded = Lexer.record p.lexer.recorded q.current :=
  Lexer.recorded_of_next_ok (next_of_advance h)

/-- Where the next token cannot be fetched, nothing is recorded. -/
lemma recorded_of_advance_error {p : Parser} {stopped : Stopped} (h : p.advance = .error stopped) :
    stopped.parser.lexer.recorded = p.lexer.recorded := by
  unfold advance at h
  split at h <;> cases h
  rename_i hnext
  exact Lexer.recorded_of_next_error hnext

/-- A parser starts with its first token recorded. -/
lemma recorded_of_start {lexer : Lexer} {allowTrailing : Bool} {p : Parser}
    (h : start lexer allowTrailing = .ok p) :
    p.lexer.recorded = Lexer.record lexer.recorded p.current := by
  unfold start at h
  split at h <;> cases h
  rename_i hnext
  exact Lexer.recorded_of_next_ok hnext

/-- Where a parser cannot start, nothing is recorded. -/
lemma recorded_of_start_error {lexer lexer' : Lexer} {allowTrailing : Bool} {fault : Fault}
    (h : start lexer allowTrailing = .error (fault, lexer')) :
    lexer'.recorded = lexer.recorded := by
  unfold start at h
  split at h <;> cases h
  rename_i hnext
  exact Lexer.recorded_of_next_error hnext

/-- The record is what was consumed and the current token, and what lies ahead follows in the
source. -/
structure Logged (source : String) (p : Parser) (consumed : List Token) : Prop where
  /-- The record ends with the current token. -/
  recorded : p.lexer.recorded.toList = consumed ++ [p.current]
  /-- What was consumed and what lies ahead are the tokens of the source. -/
  stream : tokenize source = (consumed ++ p.ahead.1, p.ahead.2)

namespace Logged

variable {source : String} {p q : Parser} {consumed taken : List Token}

/-- A parser that starts on a source has consumed nothing. -/
lemma of_start {allowTrailing : Bool} (h : start (.ofSource source) allowTrailing = .ok p) :
    Logged source p [] where
  recorded := congrArg Array.toList (recorded_of_start h)
  stream := (ahead_of_start h).1.symm

/-- The record does not depend on the number of open groups. -/
lemma nesting (h : Logged source p consumed) (n : Int) :
    Logged source { p with nesting := n } consumed :=
  ⟨h.recorded, h.stream⟩

/-- **One step.** Where a token is consumed, the next one is recorded. -/
lemma advance (h : Logged source p consumed) (notEnd : p.current.isEnd = false)
    (hadvance : p.advance = .ok q) : Logged source q (consumed ++ [p.current]) where
  recorded := by
    rw [recorded_of_advance hadvance, Lexer.toList_record h.recorded notEnd, List.append_assoc]
    rfl
  stream := by
    rw [h.stream, ahead_of_advance hadvance notEnd, List.append_assoc]
    rfl

/-- **A whole run.** What it takes is consumed. -/
lemma run (h : Logged source p consumed) (hrun : Run p taken q) :
    Logged source q (consumed ++ taken) := by
  induction hrun generalizing consumed with
  | refl p => rwa [List.append_nil]
  | @step p q r taken notEnd hadvance later ih =>
      have rest := ih ((h.advance notEnd hadvance).nesting _)
      rwa [List.append_assoc] at rest

/-- Where the lexer fails, what was consumed and the current token are all there is. -/
lemma stream_of_advance_error (h : Logged source p consumed) {n : Int} {stopped : Stopped}
    (notEnd : p.current.isEnd = false)
    (hadvance : Parser.advance { p with nesting := n } = .error stopped) :
    tokenize source = (stopped.parser.lexer.recorded.toList, some stopped.fault) := by
  have last := ahead_of_advance_error hadvance notEnd
  rw [ahead_nesting] at last
  rw [h.stream, last, recorded_of_advance_error hadvance]
  exact congrArg (·, some stopped.fault) h.recorded.symm

end Logged

end Parser

/-! ## How a source is done with -/

/-- The tokens of a source begin with an expression, and the next token behind it ends it. -/
structure Leads (source : String) (taken : List Token) (tree : Expr) (next : Token) : Prop where
  /-- The tokens of the expression and the next one are the first of the source. -/
  tokens : ∃ later fault, tokenize source = (taken ++ next :: later, fault)
  /-- They derive the tree. -/
  derives : Derives .expression (taken.map Token.symbol) tree
  /-- They nest within the limit. -/
  nests : NestsWithin 200 (taken.map Token.symbol)
  /-- The expression could not go on. -/
  stops : Phrase.expression.continues next.symbol = false

/-- What becomes of a source, with the tokens that were handed out for it. -/
inductive HandedOut (source : String) (allowTrailing : Bool) : Except Fault Expr → List Token → Prop
  /-- The source leads with an expression, and what stands behind it is admitted. -/
  | parsed {taken : List Token} {tree : Expr} {next : Token} (leads : Leads source taken tree next)
      (admitted : (next.isEnd || allowTrailing) = true) :
      HandedOut source allowTrailing (.ok tree) (taken ++ [next])
  /-- A token of the source does not belong where it stands. -/
  | misplaced {before later : List Token} {token : Token} {fault : Option Fault}
      (complaint : Complaint) (tokens : tokenize source = (before ++ token :: later, fault)) :
      HandedOut source allowTrailing (.error ⟨.misplaced complaint token.symbol, token.pos⟩)
        (before ++ [token])
  /-- All tokens of the source are in order, and then it fails. -/
  | exhausted {recorded : List Token} {fault : Fault}
      (tokens : tokenize source = (recorded, some fault)) :
      HandedOut source allowTrailing (.error fault) recorded

/-- A parser that complains has been handed the token that it complains about. -/
lemma Parser.Logged.misplaced {source : String} {p : Parser} {consumed : List Token}
    (h : p.Logged source consumed) (allowTrailing : Bool) (complaint : Complaint) :
    HandedOut source allowTrailing (.error (p.complain complaint).fault)
      (p.complain complaint).parser.lexer.recorded.toList := by
  obtain ⟨later, hlater⟩ := p.ahead_eq_cons
  have tokens := h.stream
  rw [hlater] at tokens
  show HandedOut source allowTrailing _ p.lexer.recorded.toList
  rw [h.recorded]
  exact .misplaced complaint tokens

/-- Every source is done with in one of the three ways. -/
lemma handedOut_parseSource (source : String) (allowTrailing : Bool) :
    HandedOut source allowTrailing (parseSource source allowTrailing).outcome
      (parseSource source allowTrailing).lexer.recorded.toList := by
  rw [parseSource]
  cases hstart : Parser.start (.ofSource source) allowTrailing with
  | error stopped =>
      obtain ⟨fault, lexer⟩ := stopped
      have none : lexer.recorded.toList = [] :=
        congrArg Array.toList (Parser.recorded_of_start_error hstart)
      refine .exhausted ?_
      rw [none]
      exact Parser.tokens_of_start_error hstart
  | ok p =>
      obtain ⟨-, hnesting, htrailing⟩ := Parser.ahead_of_start hstart
      have logged := Parser.Logged.of_start hstart
      have same : Parser.read .expression p = p.expression := rfl
      simp only [Parser.parse]
      cases hread : p.expression with
      | error stopped =>
          have answer := Parser.comes_to .expression p
          rw [same, hread] at answer
          cases answer with
          | @halted taken q stopped run halts =>
              cases halts with
              | complaint complaint => exact (logged.run run).misplaced allowTrailing complaint
              | exhausted notEnd hadvance =>
                  exact .exhausted ((logged.run run).stream_of_advance_error notEnd hadvance)
      | ok answer =>
          obtain ⟨tree, q⟩ := answer
          obtain ⟨taken, run, took⟩ := Parser.exists_run_of_read (same.trans hread)
          have behind := logged.run run
          rw [List.nil_append] at behind
          by_cases hend : (q.current.isEnd || q.allowTrailing) = true
          · obtain ⟨later, hlater⟩ := q.ahead_eq_cons
            simp only [hend, if_true]
            rw [behind.recorded]
            refine .parsed ⟨⟨later, q.ahead.2, ?_⟩, took.derives, ?_, took.stops⟩ ?_
            · rw [behind.stream, hlater]
            · exact Parser.room_of_start hnesting ▸ took.nests
            · rwa [took.allowTrailing, htrailing] at hend
          · simp only [hend]
            exact behind.misplaced allowTrailing .trailing

end Calculator
