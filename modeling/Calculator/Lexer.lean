import Calculator.Lexeme

/-!
# The lexer

A lexer is a cursor over a source. It hands out one token at a time, so that whoever reads the
tokens decides how far the source is looked at, and it records every token that it has handed out,
the end of the input once only (`Lexer.next`). The cursor may be moved to any position
(`Lexer.seek`).

The characters behind the cursor are kept beside the position; the field `rest_eq` ties the two
together, so a token and the new position depend on the source and the position alone.

* A token leaves fewer characters than there were, unless it is the end (`length_rest_of_next`).
* A call that fails leaves the cursor at the first character of the lexeme that forms no symbol, and
  records nothing (`recorded_of_next_error`).

`tokenize` asks for tokens until the end or the first failure.
-/

namespace Calculator

/-- A cursor over a source, and the tokens handed out so far. -/
structure Lexer where
  /-- The whole source. -/
  source : String
  /-- How many characters stand before the cursor; beyond the end of the source, any number. -/
  pos : Nat
  /-- The characters behind the cursor. -/
  rest : List Char
  /-- The tokens handed out so far, in order, the end of the input once. -/
  recorded : Array Token
  /-- The rest is what the source holds from the position on. -/
  rest_eq : rest = source.toList.drop pos

namespace Lexer

/-- A lexer at the beginning of a source. -/
def ofSource (source : String) : Lexer where
  source := source
  pos := 0
  rest := source.toList
  recorded := #[]
  rest_eq := rfl

/-- The lexer with its cursor at another position. -/
def seek (l : Lexer) (pos : Nat) : Lexer :=
  { l with pos := pos, rest := l.source.toList.drop pos, rest_eq := rfl }

/-- A record with one more token. Behind the end of the input nothing is recorded. -/
def record (recorded : Array Token) (token : Token) : Array Token :=
  if recorded.back?.any Token.isEnd then recorded else recorded.push token

/-- The lexer behind its last character, with the end of the input recorded. -/
def finish (l : Lexer) : Lexer where
  source := l.source
  pos := l.source.length
  rest := []
  recorded := record l.recorded ⟨.endOfInput, l.source.length⟩
  rest_eq := by simp [← String.length_toList]

/-- The lexer behind a gap of blanks, before a lexeme. -/
def skip (l : Lexer) {gap : Nat} {text rest : List Char} (h : scan l.rest = .lexeme gap text rest) :
    Lexer where
  source := l.source
  pos := l.pos + gap
  rest := text ++ rest
  recorded := l.recorded
  rest_eq := by rw [← drop_of_scan h, l.rest_eq, List.drop_drop]

/-- The lexer behind a lexeme, with its token recorded. -/
def take (l : Lexer) {gap : Nat} {text rest : List Char} (h : scan l.rest = .lexeme gap text rest)
    (symbol : Symbol) : Lexer where
  source := l.source
  pos := l.pos + gap + text.length
  rest := rest
  recorded := record l.recorded ⟨symbol, l.pos + gap⟩
  rest_eq := by
    rw [← List.drop_drop, ← List.drop_drop, ← l.rest_eq, drop_of_scan h, List.drop_left]

/-- The next token, or the reason why the characters behind the cursor form none, and the lexer
after that. -/
def next (l : Lexer) : Except Fault Token × Lexer :=
  match h : scan l.rest with
  | .finished => (.ok ⟨.endOfInput, l.source.length⟩, l.finish)
  | .lexeme gap text _ =>
      match Symbol.ofLexeme text with
      | .ok symbol => (.ok ⟨symbol, l.pos + gap⟩, l.take h symbol)
      | .error cause => (.error ⟨cause, l.pos + gap⟩, l.skip h)

/-- A token other than the end leaves fewer characters behind the cursor, and the end leaves none.
-/
theorem length_rest_of_next {l l' : Lexer} {token : Token} (h : l.next = (.ok token, l')) :
    if token.isEnd then l'.rest = [] else l'.rest.length < l.rest.length := by
  unfold next at h
  split at h
  · cases h
    rfl
  · rename_i gap text rest hscan
    split at h
    · rename_i symbol hsymbol
      cases h
      have notEnd : symbol ≠ .endOfInput := by
        rintro rfl
        exact Symbol.ofLexeme_ne_endOfInput text hsymbol
      simp only [Token.isEnd, notEnd, decide_false, Bool.false_eq_true, if_false]
      exact length_rest_lt_of_scan hscan
    · cases h

/-- A call that fails records nothing. -/
theorem recorded_of_next_error {l l' : Lexer} {fault : Fault} (h : l.next = (.error fault, l')) :
    l'.recorded = l.recorded := by
  unfold next at h
  split at h
  · cases h
  · split at h <;> cases h
    rfl

/-- The source stays the same. -/
theorem source_of_next {l l' : Lexer} {answer : Except Fault Token} (h : l.next = (answer, l')) :
    l'.source = l.source := by
  unfold next at h
  split at h
  · cases h; rfl
  · split at h <;> cases h <;> rfl

/-- All tokens from the cursor on, up to the end of the input or the first failure. -/
def tokens (l : Lexer) : List Token × Option Fault :=
  match hnext : l.next with
  | (.error fault, _) => ([], some fault)
  | (.ok token, l') =>
      if hend : token.isEnd then ([token], none)
      else
        have shorter : l'.rest.length < l.rest.length := by
          simpa [hend] using length_rest_of_next hnext
        let later := l'.tokens
        (token :: later.1, later.2)
termination_by l.rest.length

end Lexer

/-- The tokens of a source, up to the end of the input or the first failure. -/
def tokenize (source : String) : List Token × Option Fault :=
  (Lexer.ofSource source).tokens

end Calculator
