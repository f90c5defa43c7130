import Mathlib.Data.List.Forall2
import Mathlib.Data.Option.Defs
import Calculator.Proofs.Lexer.Cut

/-!
# The division of a text

Every text consists of stretches, each a gap and a lexeme behind it, and of a gap at the end
(`Divided`). It does so in one way only (`existsUnique_divided`). A division does not ask what the
lexemes stand for, so it is there for any text, whether the lexer fails on it or not.

The lexemes alone settle the tokens, apart from their positions. Two texts with the same lexemes
have streams that are alike (`Divided.streamsAlike`): the same symbols and the same cause of failure,
at positions that correspond. Which positions correspond is a parameter (`same`). It has to hold of
the places where lexemes with one index begin, and of the two ends.
-/

namespace Calculator

/-! ## Divisions -/

/-- A gap and the lexeme behind it. -/
@[ext]
structure Stretch where
  /-- The gap. -/
  gap : List Char
  /-- The lexeme. -/
  lexeme : List Char
  /-- The gap consists of blanks. -/
  isGap : IsGap gap
  /-- The lexeme is one. -/
  isLexeme : IsLexeme lexeme

namespace Stretch

/-- The characters of a stretch. -/
def written (stretch : Stretch) : List Char :=
  stretch.gap ++ stretch.lexeme

/-- Where the lexemes of stretches begin that follow one another from a position on. -/
def starts : (pos : Nat) → (stretches : List Stretch) → List Nat
  | _, [] => []
  | pos, stretch :: stretches =>
      (pos + stretch.gap.length) :: starts (pos + stretch.written.length) stretches

/-- A stretch is as long as the gap and the lexeme together. -/
lemma length_written (stretch : Stretch) :
    stretch.written.length = stretch.gap.length + stretch.lexeme.length := by
  rw [written, List.length_append]

/-- As many lexemes begin as there are stretches. -/
lemma length_starts (pos : Nat) (stretches : List Stretch) :
    (starts pos stretches).length = stretches.length := by
  induction stretches generalizing pos with
  | nil => rfl
  | cons stretch stretches ih => rw [starts, List.length_cons, List.length_cons, ih]

/-- The first lexeme of a text that begins with a stretch is that of the stretch. -/
lemma scan_written (stretch : Stretch) {behind : List Char} (apart : Apart stretch.lexeme behind) :
    scan (stretch.written ++ behind) = .lexeme stretch.gap.length stretch.lexeme behind := by
  rw [written, List.append_assoc]
  exact scan_of_isLexeme stretch.isGap stretch.isLexeme apart

end Stretch

/-- A text consists of stretches, of which no lexeme runs into what stands behind it, and of a last
gap. -/
inductive Divided : (text : List Char) → (stretches : List Stretch) → (last : List Char) → Prop
  /-- Only the last gap is left. -/
  | nil {last : List Char} (isGap : IsGap last) : Divided last [] last
  /-- A stretch comes first. -/
  | cons {behind last : List Char} {stretches : List Stretch} (stretch : Stretch)
      (apart : Apart stretch.lexeme behind) (later : Divided behind stretches last) :
      Divided (stretch.written ++ behind) (stretch :: stretches) last

/-- Every text is divided. -/
lemma exists_divided (text : List Char) : ∃ stretches last, Divided text stretches last := by
  induction hn : text.length using Nat.strongRecOn generalizing text with
  | ind n ih =>
      subst hn
      cases hscan : scan text with
      | finished => exact ⟨[], text, .nil (isGap_of_scan hscan)⟩
      | lexeme n lexeme behind =>
          obtain ⟨stretches, last, later⟩ := ih _ (length_rest_lt_of_scan hscan) behind rfl
          obtain ⟨gap, rfl, -, isGap, isLexeme, apart⟩ := exists_gap_of_scan hscan
          refine ⟨⟨gap, lexeme, isGap, isLexeme⟩ :: stretches, last, ?_⟩
          rw [← List.append_assoc]
          exact .cons ⟨gap, lexeme, isGap, isLexeme⟩ apart later

/-- Two divisions of one text are the same. -/
lemma Divided.unique {text last last' : List Char} {stretches stretches' : List Stretch}
    (h : Divided text stretches last) (h' : Divided text stretches' last') :
    stretches = stretches' ∧ last = last' := by
  induction h generalizing stretches' with
  | nil isGap =>
      have finished := scan_of_isGap isGap
      cases h' with
      | nil isGap' => exact ⟨rfl, rfl⟩
      | cons stretch apart later =>
          rw [stretch.scan_written apart] at finished
          cases finished
  | cons stretch apart later ih =>
      have first := stretch.scan_written apart
      generalize htext : stretch.written ++ _ = text at first h'
      cases h' with
      | nil isGap' =>
          rw [scan_of_isGap isGap'] at first
          cases first
      | cons stretch' apart' later' =>
          rw [stretch'.scan_written apart', Scan.lexeme.injEq] at first
          obtain ⟨length, lexeme, rfl⟩ := first
          have gaps : stretch.gap = stretch'.gap := by
            rw [Stretch.written, Stretch.written, List.append_assoc, List.append_assoc] at htext
            exact List.append_inj_left htext length.symm
          obtain ⟨rfl, rfl⟩ := ih later'
          obtain rfl : stretch = stretch' := Stretch.ext gaps lexeme.symm
          exact ⟨rfl, rfl⟩

/-- **Every text is divided in exactly one way.** -/
theorem existsUnique_divided (text : List Char) :
    ∃! division : List Stretch × List Char, Divided text division.1 division.2 := by
  obtain ⟨stretches, last, h⟩ := exists_divided text
  refine ⟨(stretches, last), h, ?_⟩
  rintro ⟨stretches', last'⟩ h'
  obtain ⟨rfl, rfl⟩ := h.unique h'
  rfl

/-! ## Streams that are alike -/

/-- Two tokens have one symbol, at positions that correspond. -/
structure Token.Alike (same : Nat → Nat → Prop) (token token' : Token) : Prop where
  /-- The symbols are equal. -/
  symbol : token.symbol = token'.symbol
  /-- The positions correspond. -/
  pos : same token.pos token'.pos

/-- Two faults have one cause, at positions that correspond. -/
structure Fault.Alike (same : Nat → Nat → Prop) (fault fault' : Fault) : Prop where
  /-- The causes are equal. -/
  cause : fault.cause = fault'.cause
  /-- The positions correspond. -/
  pos : same fault.pos fault'.pos

/-- Two streams have tokens that are alike, one by one, and fail alike or not at all. -/
structure StreamsAlike (same : Nat → Nat → Prop) (stream stream' : List Token × Option Fault) :
    Prop where
  /-- The tokens are alike. -/
  tokens : List.Forall₂ (Token.Alike same) stream.1 stream'.1
  /-- So are the failures. -/
  fault : Option.Rel (Fault.Alike same) stream.2 stream'.2

variable {same : Nat → Nat → Prop}

/-- Tokens that are alike are the end of the input both or neither. -/
lemma Token.Alike.isEnd {token token' : Token} (h : Token.Alike same token token') :
    token.isEnd = token'.isEnd := by
  rw [Token.isEnd, Token.isEnd, h.symbol]

/-- Tokens that are alike have the same symbols. -/
lemma map_symbol_of_forall₂ {tokens tokens' : List Token}
    (h : List.Forall₂ (Token.Alike same) tokens tokens') :
    tokens.map Token.symbol = tokens'.map Token.symbol := by
  induction h with
  | nil => rfl
  | cons first later ih => rw [List.map_cons, List.map_cons, first.symbol, ih]

/-- Alike tokens in front of alike streams. -/
lemma StreamsAlike.followedBy {stream stream' : List Token × Option Fault} {token token' : Token}
    (later : StreamsAlike same stream stream') (h : Token.Alike same token token') :
    StreamsAlike same (token.followedBy stream) (token'.followedBy stream') where
  tokens := .cons h later.tokens
  fault := later.fault

/-- **Texts with the same lexemes have streams that are alike**, if the places where the lexemes
begin correspond, and the ends. -/
lemma Divided.streamsAlike {text text' last last' : List Char} {stretches stretches' : List Stretch}
    (h : Divided text stretches last) (h' : Divided text' stretches' last')
    (lexemes : stretches.map Stretch.lexeme = stretches'.map Stretch.lexeme) {pos pos' : Nat}
    (starts : List.Forall₂ same (Stretch.starts pos stretches) (Stretch.starts pos' stretches'))
    (ends : same (pos + text.length) (pos' + text'.length)) :
    StreamsAlike same (tokensAt pos text) (tokensAt pos' text') := by
  induction h generalizing text' stretches' pos pos' with
  | nil isGap =>
      cases h' with
      | nil isGap' =>
          rw [tokensAt_of_isGap isGap, tokensAt_of_isGap isGap']
          exact ⟨.cons ⟨rfl, ends⟩ .nil, .none⟩
      | cons stretch apart later => cases lexemes
  | cons stretch apart later ih =>
      cases h' with
      | nil isGap' => cases lexemes
      | cons stretch' apart' later' =>
          obtain ⟨lexeme, lexemes'⟩ := List.cons.inj lexemes
          obtain ⟨start, starts'⟩ := List.forall₂_cons.mp starts
          have first := stretch.scan_written apart
          have first' := stretch'.scan_written apart'
          rw [← lexeme] at first'
          cases hsymbol : Symbol.ofLexeme stretch.lexeme with
          | error cause =>
              rw [tokensAt_of_fault first hsymbol, tokensAt_of_fault first' hsymbol]
              exact ⟨.nil, .some ⟨rfl, start⟩⟩
          | ok symbol =>
              rw [List.length_append, List.length_append, ← Nat.add_assoc, ← Nat.add_assoc] at ends
              have streams := ih later' lexemes' starts' ends
              rw [stretch.length_written, stretch'.length_written, ← lexeme, ← Nat.add_assoc,
                ← Nat.add_assoc] at streams
              rw [tokensAt_of_symbol first hsymbol, tokensAt_of_symbol first' hsymbol]
              exact streams.followedBy ⟨rfl, start⟩

end Calculator
