import Calculator.Proofs.Lexer.Partition

/-!
# The cursor and the record of a lexer

A lexer is asked for its next token, or its cursor is moved, in any order (`Lexer.Request`).
`Lexer.serve` answers requests until a call fails.

* The record is a fold of the answers (`recorded_of_serve`), whatever was sought between them. The
  end of the input closes it: a record that ends with it stays as it is (`foldl_record_of_closed`),
  so all in all it is the answers up to the first end (`uptoEnd`).
* What a call does is told by the characters behind the cursor (`Call`): there is a lexeme that
  spells a symbol, or nothing but blanks, or a lexeme that is refused. Two lexers with one source
  and one position answer alike (`next_congr`), so no call depends on what was asked before.
-/

namespace Calculator

/-- Tokens cut off behind the first end of the input. -/
def uptoEnd : List Token → List Token
  | [] => []
  | token :: later => if token.isEnd then [token] else token :: uptoEnd later

namespace Lexer

/-! ## Requests -/

/-- What may be asked of a lexer. -/
inductive Request
  /-- The next token. -/
  | next
  /-- The cursor at another position, inside the source or beyond its end. -/
  | seek (pos : Nat)

/-- What became of requests. -/
structure Served where
  /-- The tokens that the calls returned, in order. -/
  tokens : List Token
  /-- The failure of the last call, if it failed. -/
  fault : Option Fault
  /-- The lexer after that. -/
  lexer : Lexer

/-- The answers to requests, up to the first call that fails. -/
def serve (l : Lexer) : List Request → Served
  | [] => ⟨[], none, l⟩
  | .seek pos :: later => (l.seek pos).serve later
  | .next :: later =>
      match l.next with
      | (.error fault, l') => ⟨[], some fault, l'⟩
      | (.ok token, l') =>
          let behind := l'.serve later
          ⟨token :: behind.tokens, behind.fault, behind.lexer⟩

/-- Requests after a call that returns a token. -/
lemma serve_next {l l' : Lexer} {token : Token} (h : l.next = (.ok token, l'))
    (later : List Request) :
    l.serve (.next :: later) =
      ⟨token :: (l'.serve later).tokens, (l'.serve later).fault, (l'.serve later).lexer⟩ := by
  rw [serve, h]

/-- A call that fails is the last. -/
lemma serve_next_error {l l' : Lexer} {fault : Fault} (h : l.next = (.error fault, l'))
    (later : List Request) : l.serve (.next :: later) = ⟨[], some fault, l'⟩ := by
  rw [serve, h]

/-- The source stays the same, whatever is asked. -/
lemma source_serve (l : Lexer) (requests : List Request) :
    (l.serve requests).lexer.source = l.source := by
  induction requests generalizing l with
  | nil => rfl
  | cons request later ih =>
      cases request with
      | seek pos => exact ih (l.seek pos)
      | next =>
          cases hnext : l.next with
          | mk answer l' =>
              have same := source_of_next hnext
              cases answer with
              | error fault => rw [serve_next_error hnext, same]
              | ok token => rw [serve_next hnext, ih, same]

/-! ## The record -/

/-- A token that is handed out is recorded. -/
lemma recorded_of_next_ok {l l' : Lexer} {token : Token} (h : l.next = (.ok token, l')) :
    l'.recorded = record l.recorded token := by
  unfold next at h
  split at h
  · cases h
    rfl
  · split at h <;> cases h
    rfl

/-- **The record is a fold of the answers.** Moving the cursor leaves it as it is, and so does a
call that fails. -/
lemma recorded_of_serve (l : Lexer) (requests : List Request) :
    (l.serve requests).lexer.recorded = (l.serve requests).tokens.foldl record l.recorded := by
  induction requests generalizing l with
  | nil => rfl
  | cons request later ih =>
      cases request with
      | seek pos => exact ih (l.seek pos)
      | next =>
          cases hnext : l.next with
          | mk answer l' =>
              cases answer with
              | error fault => rw [serve_next_error hnext, recorded_of_next_error hnext]; rfl
              | ok token => rw [serve_next hnext, ih, recorded_of_next_ok hnext]; rfl

/-- A record that ends with the end of the input stays as it is. -/
lemma foldl_record_of_closed {recorded : Array Token}
    (closed : recorded.back?.any Token.isEnd = true) (tokens : List Token) :
    tokens.foldl record recorded = recorded := by
  induction tokens with
  | nil => rfl
  | cons token later ih => rw [List.foldl_cons, record, if_pos closed, ih]

/-- A record that is still open takes the tokens up to the first end. -/
lemma toList_foldl_record {recorded : Array Token}
    (isOpen : recorded.back?.any Token.isEnd = false) (tokens : List Token) :
    (tokens.foldl record recorded).toList = recorded.toList ++ uptoEnd tokens := by
  induction tokens generalizing recorded with
  | nil => exact (List.append_nil _).symm
  | cons token later ih =>
      have pushed : record recorded token = recorded.push token := by
        rw [record, isOpen, if_neg Bool.false_ne_true]
      have last : (recorded.push token).back?.any Token.isEnd = token.isEnd := by
        rw [Array.back?_push, Option.any_some]
      rw [List.foldl_cons, pushed, uptoEnd]
      cases hend : token.isEnd with
      | true => rw [foldl_record_of_closed (last.trans hend), Array.toList_push, if_pos rfl]
      | false =>
          rw [ih (last.trans hend), Array.toList_push, List.append_assoc,
            if_neg Bool.false_ne_true]
          rfl

/-! ## One call -/

/-- What a call answers and where it leaves the cursor, said of the characters behind the cursor. -/
inductive Call (l : Lexer) : Except Fault Token × Lexer → Prop
  /-- Behind a gap a lexeme spells a symbol. The token stands at the lexeme, and the cursor moves on
  to the end of the lexeme. -/
  | token {gap lexeme behind : List Char} {symbol : Symbol} {l' : Lexer}
      (text : l.source.toList.drop l.pos = gap ++ (lexeme ++ behind)) (isGap : IsGap gap)
      (spells : Spells lexeme symbol) (apart : Apart lexeme behind)
      (pos : l'.pos = l.pos + gap.length + lexeme.length) (forward : l.pos < l'.pos) :
      Call l (.ok ⟨symbol, l.pos + gap.length⟩, l')
  /-- There is nothing but blanks. The end stands behind the source, and there the cursor is put. -/
  | finished {l' : Lexer} (text : IsGap (l.source.toList.drop l.pos))
      (pos : l'.pos = l.source.length) : Call l (.ok ⟨.endOfInput, l.source.length⟩, l')
  /-- Behind a gap a lexeme is refused. The cursor moves over the gap, and nothing is recorded. -/
  | refused {gap lexeme behind : List Char} {cause : Cause} {l' : Lexer}
      (text : l.source.toList.drop l.pos = gap ++ (lexeme ++ behind)) (isGap : IsGap gap)
      (isLexeme : IsLexeme lexeme) (apart : Apart lexeme behind)
      (refused : Refused lexeme cause.message) (pos : l'.pos = l.pos + gap.length)
      (recorded : l'.recorded = l.recorded) : Call l (.error ⟨cause, l.pos + gap.length⟩, l')

/-- **Every call is told by the characters behind the cursor.** -/
lemma call_next (l : Lexer) : Call l l.next := by
  have behind : l.source.toList.drop l.pos = l.rest := l.rest_eq.symm
  cases hscan : scan l.rest with
  | finished =>
      rw [next_of_finished hscan]
      exact .finished (behind ▸ isGap_of_scan hscan) rfl
  | lexeme n lexeme rest =>
      obtain ⟨gap, text, rfl, isGap, isLexeme, apart⟩ := exists_gap_of_scan hscan
      cases hsymbol : Symbol.ofLexeme lexeme with
      | error cause =>
          rw [next_of_fault hscan hsymbol]
          exact .refused (behind.trans text) isGap isLexeme apart
            (refused_of_ofLexeme isLexeme hsymbol) rfl rfl
      | ok symbol =>
          rw [next_of_symbol hscan hsymbol]
          refine .token (behind.trans text) isGap (spells_of_ofLexeme isLexeme hsymbol) apart rfl ?_
          have positive := List.length_pos_iff.mpr isLexeme.ne_nil
          show l.pos < l.pos + gap.length + lexeme.length
          omega

/-- **A call depends on the source and the position alone**, not on what was handed out before. -/
lemma next_congr {l l' : Lexer} (source : l.source = l'.source) (pos : l.pos = l'.pos) :
    l.next.1 = l'.next.1 ∧ l.next.2.pos = l'.next.2.pos := by
  have rest : l.rest = l'.rest := by rw [l.rest_eq, l'.rest_eq, source, pos]
  cases hscan : scan l.rest with
  | finished =>
      rw [next_of_finished hscan, next_of_finished (rest ▸ hscan), source]
      exact ⟨rfl, congrArg String.length source⟩
  | lexeme gap lexeme behind =>
      cases hsymbol : Symbol.ofLexeme lexeme with
      | error cause =>
          rw [next_of_fault hscan hsymbol, next_of_fault (rest ▸ hscan) hsymbol, pos]
          exact ⟨rfl, congrArg (· + gap) pos⟩
      | ok symbol =>
          rw [next_of_symbol hscan hsymbol, next_of_symbol (rest ▸ hscan) hsymbol, pos]
          exact ⟨rfl, congrArg (· + gap + lexeme.length) pos⟩

/-- **A lexer in use.** After any requests to a lexer on a source, the record is what the calls
returned, up to the first end; and the next call answers, and moves the cursor, as that of a new
lexer at the same position does, by the characters behind it. -/
theorem recorded_and_next_of_serve (source : String) (requests : List Request) :
    let served := (ofSource source).serve requests
    served.lexer.recorded.toList = uptoEnd served.tokens ∧
      served.lexer.source = source ∧ Call served.lexer served.lexer.next ∧
        served.lexer.next.1 = ((ofSource source).seek served.lexer.pos).next.1 ∧
          served.lexer.next.2.pos = ((ofSource source).seek served.lexer.pos).next.2.pos := by
  intro served
  have sameSource : served.lexer.source = source := source_serve (ofSource source) requests
  refine ⟨?_, sameSource, call_next _, next_congr sameSource rfl⟩
  rw [recorded_of_serve, toList_foldl_record rfl]
  rfl

/-- What is read again behind the end is returned and not recorded. -/
example :
    let served := (ofSource "7 ").serve [.next, .next, .seek 0, .next, .seek 9, .next]
    served.tokens.map Token.pos = [0, 2, 0, 2] ∧
      served.lexer.recorded.toList.map Token.pos = [0, 2] := by
  decide

end Lexer

end Calculator
