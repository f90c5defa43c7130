import Mathlib.Tactic.Common
import Calculator.Lexer

/-!
# The token stream of a text

What a lexer hands out from its cursor on depends on two things only: where the cursor stands, and
the characters behind it. `tokensAt pos text` is that dependence, a recursion over the text in which
no lexer occurs, and `Lexer.tokens_eq_tokensAt` says that every lexer follows it, wherever its cursor
was moved to.

The stream of a longer text is put together from the front: a blank moves the position only
(`tokensAt_blank`), a symbol of one character is a token at its place (`tokensAt_symbol`), and so is
a run of digits and points that nothing of its kind touches (`tokensAt_numeral`).
-/

namespace Calculator

/-- A stream with one more token in front of it. -/
def Token.followedBy (token : Token) (later : List Token × Option Fault) :
    List Token × Option Fault :=
  (token :: later.1, later.2)

/-- The tokens of a text that begins at a position, up to the end of the input or the first
failure. -/
def tokensAt (pos : Nat) (text : List Char) : List Token × Option Fault :=
  match hscan : scan text with
  | .finished => ([⟨.endOfInput, pos + text.length⟩], none)
  | .lexeme gap lexeme rest =>
      have _shorter : rest.length < text.length := length_rest_lt_of_scan hscan
      match Symbol.ofLexeme lexeme with
      | .error cause => ([], some ⟨cause, pos + gap⟩)
      | .ok symbol =>
          Token.followedBy ⟨symbol, pos + gap⟩ (tokensAt (pos + gap + lexeme.length) rest)
termination_by text.length

/-- A stream goes by the first gap and the first lexeme of its text. -/
lemma tokensAt_eq (pos : Nat) (text : List Char) :
    tokensAt pos text =
      match scan text with
      | .finished => ([⟨.endOfInput, pos + text.length⟩], none)
      | .lexeme gap lexeme rest =>
          match Symbol.ofLexeme lexeme with
          | .error cause => ([], some ⟨cause, pos + gap⟩)
          | .ok symbol =>
              Token.followedBy ⟨symbol, pos + gap⟩
                (tokensAt (pos + gap + lexeme.length) rest) := by
  rw [tokensAt]
  split <;> rename_i hscan <;> simp only [hscan]

/-- The stream of nothing but blanks is the end of the input. -/
lemma tokensAt_of_finished {text : List Char} (h : scan text = .finished) (pos : Nat) :
    tokensAt pos text = ([⟨.endOfInput, pos + text.length⟩], none) := by
  rw [tokensAt_eq, h]

/-- A lexeme that stands for a symbol is the first token of its stream. -/
lemma tokensAt_of_symbol {text lexeme rest : List Char} {gap : Nat} {symbol : Symbol}
    (h : scan text = .lexeme gap lexeme rest) (hsymbol : Symbol.ofLexeme lexeme = .ok symbol)
    (pos : Nat) :
    tokensAt pos text =
      Token.followedBy ⟨symbol, pos + gap⟩ (tokensAt (pos + gap + lexeme.length) rest) := by
  simp only [tokensAt_eq pos text, h, hsymbol]

/-- A lexeme that stands for no symbol ends its stream. -/
lemma tokensAt_of_fault {text lexeme rest : List Char} {gap : Nat} {cause : Cause}
    (h : scan text = .lexeme gap lexeme rest) (hcause : Symbol.ofLexeme lexeme = .error cause)
    (pos : Nat) : tokensAt pos text = ([], some ⟨cause, pos + gap⟩) := by
  simp only [tokensAt_eq pos text, h, hcause]

/-- A lexeme that stands for no symbol is a matter of its characters. -/
lemma kind_of_ofLexeme {lexeme : List Char} {cause : Cause}
    (h : Symbol.ofLexeme lexeme = .error cause) : cause.kind = .lexical := by
  unfold Symbol.ofLexeme at h
  split at h
  · cases h
    rfl
  · split at h <;> split at h <;> cases h <;> rfl

/-- A token that a lexeme stands for is not the end of the input. -/
lemma isEnd_eq_false_of_ofLexeme {lexeme : List Char} {symbol : Symbol}
    (h : Symbol.ofLexeme lexeme = .ok symbol) (pos : Nat) :
    (⟨symbol, pos⟩ : Token).isEnd = false := by
  simp only [Token.isEnd, decide_eq_false_iff_not]
  rintro rfl
  exact Symbol.ofLexeme_ne_endOfInput lexeme h

/-! ## Lexers follow the stream -/

namespace Lexer

/-- Behind nothing but blanks, the next token is the end of the input. -/
lemma next_of_finished {l : Lexer} (h : scan l.rest = .finished) :
    l.next = (.ok ⟨.endOfInput, l.source.length⟩, l.finish) := by
  rw [next]
  split <;> rename_i h' <;> rw [h] at h'
  cases h'

/-- Before a lexeme that stands for a symbol, the next token is that symbol. -/
lemma next_of_symbol {l : Lexer} {gap : Nat} {lexeme rest : List Char} {symbol : Symbol}
    (h : scan l.rest = .lexeme gap lexeme rest) (hsymbol : Symbol.ofLexeme lexeme = .ok symbol) :
    l.next = (.ok ⟨symbol, l.pos + gap⟩, l.take h symbol) := by
  rw [next]
  split <;> rename_i h' <;> rw [h] at h' <;> cases h'
  simp only [hsymbol]

/-- Before a lexeme that stands for no symbol, there is no next token. -/
lemma next_of_fault {l : Lexer} {gap : Nat} {lexeme rest : List Char} {cause : Cause}
    (h : scan l.rest = .lexeme gap lexeme rest) (hcause : Symbol.ofLexeme lexeme = .error cause) :
    l.next = (.error ⟨cause, l.pos + gap⟩, l.skip h) := by
  rw [next]
  split <;> rename_i h' <;> rw [h] at h' <;> cases h'
  simp only [hcause]

/-- One step of the stream of a lexer. -/
lemma tokens_eq (l : Lexer) :
    l.tokens =
      match l.next with
      | (.error fault, _) => ([], some fault)
      | (.ok token, l') => if token.isEnd then ([token], none) else token.followedBy l'.tokens := by
  rw [tokens]
  split <;> rename_i hnext <;> simp only [hnext]
  split <;> rfl

/-- A lexer with a lexeme behind its cursor stands inside the source, and so does its end. -/
lemma inside_of_scan {l : Lexer} {gap : Nat} {lexeme rest : List Char}
    (h : scan l.rest = .lexeme gap lexeme rest) :
    l.pos + gap + lexeme.length ≤ l.source.length := by
  obtain ⟨whole, hgap, positive⟩ := scan_eq_lexeme h
  have lengths : l.rest.length = gap + (lexeme.length + rest.length) := by
    rw [hgap, ← List.length_append, ← List.length_append, ← whole]
  have total : l.rest.length = l.source.length - l.pos := by
    rw [l.rest_eq, List.length_drop, String.length_toList]
  omega

/-- **The tokens of a lexer are the stream of the text behind its cursor.** Beyond the end of the
source the cursor counts as standing at its end. -/
lemma tokens_eq_tokensAt (l : Lexer) :
    l.tokens = tokensAt (min l.pos l.source.length) l.rest := by
  induction hn : l.rest.length using Nat.strongRecOn generalizing l with
  | ind n ih =>
      subst hn
      cases hscan : scan l.rest with
      | finished =>
          -- the end of the source is as far away as the blanks reach
          have stop : min l.pos l.source.length + l.rest.length = l.source.length := by
            rw [l.rest_eq, List.length_drop, String.length_toList]
            omega
          rw [tokensAt_of_finished hscan, tokens_eq, next_of_finished hscan, stop]
          rfl
      | lexeme gap lexeme rest =>
          have inside := inside_of_scan hscan
          have start : min l.pos l.source.length = l.pos := by omega
          rw [start]
          cases hsymbol : Symbol.ofLexeme lexeme with
          | error cause => rw [tokensAt_of_fault hscan hsymbol, tokens_eq, next_of_fault hscan hsymbol]
          | ok symbol =>
              have later := ih _ (length_rest_lt_of_scan hscan) (l.take hscan symbol) rfl
              have stop : min (l.take hscan symbol).pos (l.take hscan symbol).source.length =
                  (l.take hscan symbol).pos := Nat.min_eq_left inside
              rw [tokensAt_of_symbol hscan hsymbol, tokens_eq, next_of_symbol hscan hsymbol]
              simp only [isEnd_eq_false_of_ofLexeme hsymbol, Bool.false_eq_true, if_false, later,
                stop]
              rfl

end Lexer

/-- The tokens of a source are the stream of its characters. -/
lemma tokenize_eq_tokensAt (source : String) : tokenize source = tokensAt 0 source.toList := by
  rw [tokenize, Lexer.tokens_eq_tokensAt]
  simp [Lexer.ofSource]

/-! ## Where a stream ends -/

/-- A stream ends with the end of the input, which stands behind the last character and nowhere else
in the stream, or it fails before that. -/
lemma tokensAt_cases (pos : Nat) (text : List Char) :
    ∃ tokens : List Token, (∀ token ∈ tokens, token.isEnd = false) ∧
      (tokensAt pos text = (tokens ++ [⟨.endOfInput, pos + text.length⟩], none) ∨
        ∃ fault, tokensAt pos text = (tokens, some fault)) := by
  induction hn : text.length using Nat.strongRecOn generalizing pos text with
  | ind n ih =>
      subst hn
      cases hscan : scan text with
      | finished => exact ⟨[], by simp, Or.inl (tokensAt_of_finished hscan pos)⟩
      | lexeme gap lexeme rest =>
          cases hsymbol : Symbol.ofLexeme lexeme with
          | error cause => exact ⟨[], by simp, Or.inr ⟨_, tokensAt_of_fault hscan hsymbol pos⟩⟩
          | ok symbol =>
              obtain ⟨whole, hgap, -⟩ := scan_eq_lexeme hscan
              have lengths : text.length = gap + (lexeme.length + rest.length) := by
                rw [hgap, ← List.length_append, ← List.length_append, ← whole]
              obtain ⟨tokens, notEnd, later⟩ :=
                ih _ (length_rest_lt_of_scan hscan) (pos + gap + lexeme.length) rest rfl
              rw [tokensAt_of_symbol hscan hsymbol]
              refine ⟨⟨symbol, pos + gap⟩ :: tokens, ?_, ?_⟩
              · simpa [isEnd_eq_false_of_ofLexeme hsymbol] using notEnd
              · rcases later with hend | ⟨fault, hfault⟩
                · left
                  have stop : pos + gap + lexeme.length + rest.length = pos + text.length := by
                    omega
                  simp [hend, Token.followedBy, stop]
                · right
                  exact ⟨fault, by simp [hfault, Token.followedBy]⟩

/-- A stream fails on characters, not on symbols. -/
lemma kind_of_tokensAt {pos : Nat} {text : List Char} {fault : Fault}
    (h : (tokensAt pos text).2 = some fault) : fault.cause.kind = .lexical := by
  induction hn : text.length using Nat.strongRecOn generalizing pos text with
  | ind n ih =>
      subst hn
      cases hscan : scan text with
      | finished =>
          rw [tokensAt_of_finished hscan] at h
          cases h
      | lexeme gap lexeme rest =>
          cases hsymbol : Symbol.ofLexeme lexeme with
          | error cause =>
              rw [tokensAt_of_fault hscan hsymbol] at h
              cases h
              exact kind_of_ofLexeme hsymbol
          | ok symbol =>
              rw [tokensAt_of_symbol hscan hsymbol] at h
              exact ih _ (length_rest_lt_of_scan hscan) h rfl

/-- The last token of a source that does not fail is the end of the input. -/
lemma tokenize_last {source : String} {tokens : List Token} {last : Token}
    (h : tokenize source = (tokens ++ [last], none)) : last = ⟨.endOfInput, source.length⟩ := by
  obtain ⟨tokens', -, hend | ⟨fault, hfault⟩⟩ := tokensAt_cases 0 source.toList
  · rw [tokenize_eq_tokensAt, hend, Nat.zero_add, String.length_toList] at h
    exact (List.append_inj_right' (Prod.mk.inj h).1 rfl |> List.singleton_inj.mp).symm
  · rw [tokenize_eq_tokensAt, hfault] at h
    simp at h

/-! ## Streams from the front -/

/-- A character of a number is not blank. -/
lemma isBlank_eq_false_of_isNumeralChar {c : Char} (h : isNumeralChar c = true) :
    Text.isBlank c = false := by
  simp only [isNumeralChar, Bool.or_eq_true, decide_eq_true_eq] at h
  rcases h with digit | rfl
  · simp only [Char.isDigit, Bool.and_eq_true, decide_eq_true_eq, ge_iff_le,
      UInt32.le_iff_toNat_le] at digit
    have bounds : 48 ≤ c.toNat ∧ c.toNat ≤ 57 := digit
    simp only [Text.isBlank, Text.isWhiteSpace, Bool.or_eq_false_iff, Bool.and_eq_false_iff,
      decide_eq_false_iff_not, beq_eq_false_iff_ne]
    omega
  · decide

/-- A blank in front of a text moves the position only. -/
lemma tokensAt_blank {c : Char} (blank : Text.isBlank c = true) (pos : Nat) (text : List Char) :
    tokensAt pos (c :: text) = tokensAt (pos + 1) text := by
  have hscan : scan (c :: text) =
      match scan text with
      | .finished => .finished
      | .lexeme gap lexeme rest => .lexeme (gap + 1) lexeme rest := by
    simp only [scan, List.dropWhile_cons_of_pos blank, List.takeWhile_cons_of_pos blank]
    cases text.dropWhile Text.isBlank <;> rfl
  rw [tokensAt_eq, tokensAt_eq, hscan]
  cases scan text with
  | finished => simp only [List.length_cons, Nat.add_assoc, Nat.add_comm 1]
  | lexeme gap lexeme rest => simp only [Nat.add_assoc, Nat.add_comm 1]

/-- A symbol of one character is a token at its place. -/
lemma tokensAt_symbol {c : Char} {symbol : Symbol} (notBlank : Text.isBlank c = false)
    (notNumeral : isNumeralChar c = false) (hsymbol : Symbol.ofChar? c = some symbol) (pos : Nat)
    (text : List Char) :
    tokensAt pos (c :: text) = Token.followedBy ⟨symbol, pos⟩ (tokensAt (pos + 1) text) := by
  have hscan : scan (c :: text) = .lexeme 0 [c] text := by
    simp [scan, notBlank, splitLexeme, notNumeral]
  have hlexeme : Symbol.ofLexeme [c] = .ok symbol := by
    simp [Symbol.ofLexeme, notNumeral, hsymbol]
  exact tokensAt_of_symbol hscan hlexeme pos

/-- A run of digits and points that denotes a number is a token at its place, as far as it goes: the
text behind it begins with neither a digit nor a point. -/
lemma tokensAt_numeral {numeral text : List Char} {d : Decimal}
    (hnumeral : Decimal.ofNumeral? numeral = some d)
    (hchars : ∀ c ∈ numeral, isNumeralChar c = true)
    (maximal : text.takeWhile isNumeralChar = []) (pos : Nat) :
    tokensAt pos (numeral ++ text) =
      Token.followedBy ⟨.number (.ofDecimal false d), pos⟩
        (tokensAt (pos + numeral.length) text) := by
  obtain ⟨c, tail, rfl⟩ : ∃ c tail, numeral = c :: tail := by
    cases numeral with
    | nil => simp [Decimal.ofNumeral?] at hnumeral
    | cons c tail => exact ⟨c, tail, rfl⟩
  have head : isNumeralChar c = true := hchars c (by simp)
  have others : ∀ d ∈ tail, isNumeralChar d = true := fun d hd => hchars d (by simp [hd])
  have kept : text.dropWhile isNumeralChar = text := by
    have whole := List.takeWhile_append_dropWhile (p := isNumeralChar) (l := text)
    rwa [maximal, List.nil_append] at whole
  have hscan : scan (c :: tail ++ text) = .lexeme 0 (c :: tail) text := by
    simp [scan, isBlank_eq_false_of_isNumeralChar head, splitLexeme, head,
      List.takeWhile_append_of_pos others, List.dropWhile_append_of_pos others, maximal, kept]
  have hlexeme : Symbol.ofLexeme (c :: tail) = .ok (.number (.ofDecimal false d)) := by
    simp [Symbol.ofLexeme, head, hnumeral]
  exact tokensAt_of_symbol hscan hlexeme pos

/-- A numeral on its own is one token, and then the source ends. -/
lemma tokenize_numeral {numeral : String} {d : Decimal}
    (hnumeral : Decimal.ofNumeral? numeral.toList = some d)
    (hchars : ∀ c ∈ numeral.toList, isNumeralChar c = true) :
    tokenize numeral =
      ([⟨.number (.ofDecimal false d), 0⟩, ⟨.endOfInput, numeral.length⟩], none) := by
  have alone := @tokensAt_numeral numeral.toList [] d hnumeral hchars rfl 0
  rw [List.append_nil, @tokensAt_of_finished [] rfl, String.length_toList, Nat.zero_add] at alone
  exact (tokenize_eq_tokensAt numeral).trans alone

end Calculator
