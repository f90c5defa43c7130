import Calculator.Proofs.Lexer.Partition
import Calculator.Proofs.Parser.Recognition

/-!
# Texts by the symbols that they spell out

What matters of a text to the parser, if the lexer does not fail on it, is the list of its symbols
(`SpellsOut`). The list is put together from the front and from the back alike:

* two texts in a row spell out what each of them does, unless a number runs across
  (`SpellsOut.append`), and where the whole spells something out, so does the second part
  (`SpellsOut.exists_of_append`);
* what stands before a token, or before the failure of the lexer, spells out the symbols up to there
  (`spellsOut_take_of_token`, `spellsOut_take_of_fault`).

A source is parsed if and only if it spells out a phrase within the limit
(`parseExpr_eq_ok_iff_spellsOut`). No position occurs in any of this.
-/

namespace Calculator

/-- All of a text is lexed, and these are its symbols. -/
def SpellsOut (text : List Char) (symbols : List Symbol) : Prop :=
  ∃ segments gap, Cut text segments gap ∧ IsGap gap ∧ segments.map Segment.symbol = symbols

/-! ## Symbols and tokens -/

/-- The tokens of segments have the symbols of the segments. -/
lemma Segment.map_symbol_tokens (segments : List Segment) (pos : Nat) :
    (Segment.tokens pos segments).map Token.symbol = segments.map Segment.symbol := by
  induction segments generalizing pos with
  | nil => rfl
  | cons segment segments ih => rw [tokens, List.map_cons, List.map_cons, ih]

/-- A text that spells out symbols is lexed to its end, with these symbols, wherever it begins. -/
lemma SpellsOut.exists_tokensAt {text : List Char} {symbols : List Symbol}
    (h : SpellsOut text symbols) (pos : Nat) :
    ∃ tokens : List Token, tokensAt pos text = (tokens ++ [⟨.endOfInput, pos + text.length⟩], none) ∧
      tokens.map Token.symbol = symbols := by
  obtain ⟨segments, gap, hcut, hgap, rfl⟩ := h
  have length : pos + (segments.flatMap Segment.written).length + gap.length =
      pos + text.length := by
    rw [hcut.text_eq, List.length_append, Nat.add_assoc]
  refine ⟨Segment.tokens pos segments, ?_, Segment.map_symbol_tokens segments pos⟩
  rw [tokensAt_of_cut hcut, tokensAt_of_isGap hgap, length]

/-- A text that is lexed to its end spells out the symbols of its tokens. -/
lemma spellsOut_of_tokensAt {text : List Char} {pos : Nat} {tokens : List Token} {last : Token}
    (h : tokensAt pos text = (tokens ++ [last], none)) :
    SpellsOut text (tokens.map Token.symbol) := by
  obtain ⟨segments, rest, hcut, hgap | ⟨gap, lexeme, behind, cause, jams⟩⟩ := exists_cut text
  · rw [tokensAt_of_cut hcut, tokensAt_of_isGap hgap] at h
    obtain rfl : Segment.tokens pos segments = tokens := List.append_inj_left' (Prod.mk.inj h).1 rfl
    exact ⟨segments, rest, hcut, hgap, (Segment.map_symbol_tokens segments pos).symm⟩
  · rw [tokensAt_of_cut hcut, jams.tokensAt_eq] at h
    cases (Prod.mk.inj h).2

/-- A text on which the lexer does not fail spells something out. -/
lemma exists_spellsOut_of_tokensAt {text : List Char} {pos : Nat}
    (h : (tokensAt pos text).2 = none) : ∃ tokens : List Token,
      tokensAt pos text = (tokens ++ [⟨.endOfInput, pos + text.length⟩], none) ∧
        SpellsOut text (tokens.map Token.symbol) := by
  obtain ⟨tokens, -, hend | ⟨fault, hfault⟩⟩ := tokensAt_cases pos text
  · exact ⟨tokens, hend, spellsOut_of_tokensAt hend⟩
  · rw [hfault] at h
    cases h

/-! ## Parts of a text -/

/-- What spells one symbol spells out that symbol. -/
lemma Spells.spellsOut {lexeme : List Char} {symbol : Symbol} (h : Spells lexeme symbol) :
    SpellsOut lexeme [symbol] := by
  have single : Cut (lexeme ++ []) [⟨[], lexeme, symbol, isGap_nil, h⟩] [] :=
    .cons ⟨[], lexeme, symbol, isGap_nil, h⟩ (.nil_right lexeme) (.nil [])
  rw [List.append_nil] at single
  exact ⟨_, [], single, isGap_nil, rfl⟩

/-- A gap spells out nothing. -/
lemma spellsOut_of_isGap {gap : List Char} (h : IsGap gap) : SpellsOut gap [] :=
  ⟨[], gap, .nil gap, h, rfl⟩

namespace SpellsOut

/-- Two texts in a row spell out the symbols of both, if no number runs across. -/
lemma append {first second : List Char} {symbols symbols' : List Symbol}
    (h : SpellsOut first symbols) (h' : SpellsOut second symbols') (apart : Apart first second) :
    SpellsOut (first ++ second) (symbols ++ symbols') := by
  obtain ⟨tokens, htokens, rfl⟩ := h.exists_tokensAt 0
  obtain ⟨tokens', htokens', rfl⟩ := h'.exists_tokensAt (0 + first.length)
  have whole := tokensAt_append htokens apart
  rw [htokens', ← List.append_assoc] at whole
  rw [← List.map_append]
  exact spellsOut_of_tokensAt whole

/-- Where a text spells out symbols, and a first part of it does, so does the rest of it, if no
number runs across. -/
lemma exists_of_append {first second : List Char} {symbols all : List Symbol}
    (h : SpellsOut first symbols) (apart : Apart first second)
    (whole : SpellsOut (first ++ second) all) :
    ∃ symbols', SpellsOut second symbols' ∧ all = symbols ++ symbols' := by
  obtain ⟨tokens, htokens, rfl⟩ := h.exists_tokensAt 0
  obtain ⟨tokens', htokens', rfl⟩ := whole.exists_tokensAt 0
  rw [tokensAt_append htokens apart, Prod.mk.injEq] at htokens'
  obtain ⟨same, noFault⟩ := htokens'
  obtain ⟨later, hlater, hspells⟩ := exists_spellsOut_of_tokensAt noFault
  rw [hlater, ← List.append_assoc] at same
  refine ⟨_, hspells, ?_⟩
  rw [← List.append_inj_left' same rfl, List.map_append]

end SpellsOut

variable {source : String}

/-- What stands before a token of a source spells out the symbols before it. -/
lemma spellsOut_take_of_token {before later : List Token} {token : Token} {fault : Option Fault}
    (h : tokenize source = (before ++ token :: later, fault)) :
    SpellsOut (source.toList.take token.pos) (before.map Token.symbol) := by
  rw [tokenize_eq_tokensAt] at h
  have short := (tokensAt_take h).2
  rw [Nat.sub_zero] at short
  exact spellsOut_of_tokensAt short

/-- What stands before the failure of a source spells out all symbols of the source. -/
lemma spellsOut_take_of_fault {tokens : List Token} {fault : Fault}
    (h : tokenize source = (tokens, some fault)) :
    SpellsOut (source.toList.take fault.pos) (tokens.map Token.symbol) := by
  obtain ⟨segments, gap, behind, hcut, hgap, ⟨-, htokens⟩ | ⟨lexeme, more, cause, -, htokens⟩⟩ :=
    exists_cut_source source
  · rw [htokens] at h
    cases (Prod.mk.inj h).2
  · rw [htokens] at h
    cases h
    rw [hcut.text_eq, ← List.append_assoc, ← List.length_append, List.take_left,
      Segment.map_symbol_tokens]
    exact ⟨segments, gap, hcut.front, hgap, rfl⟩

/-! ## Sources -/

/-- A source that spells out symbols has them as its tokens, before the end of the input. -/
lemma SpellsOut.exists_tokenize {symbols : List Symbol} (h : SpellsOut source.toList symbols) :
    ∃ tokens : List Token, tokenize source = (tokens ++ [⟨.endOfInput, source.length⟩], none) ∧
      tokens.map Token.symbol = symbols := by
  obtain ⟨tokens, htokens, hsymbols⟩ := h.exists_tokensAt 0
  rw [← tokenize_eq_tokensAt, Nat.zero_add, String.length_toList] at htokens
  exact ⟨tokens, htokens, hsymbols⟩

/-- A source that is lexed to its end spells out the symbols of its tokens. -/
lemma spellsOut_of_tokenize {tokens : List Token} {last : Token}
    (h : tokenize source = (tokens ++ [last], none)) :
    SpellsOut source.toList (tokens.map Token.symbol) := by
  rw [tokenize_eq_tokensAt] at h
  exact spellsOut_of_tokensAt h

/-- **A source is parsed if and only if it spells out a phrase within the limit.** -/
theorem parseExpr_eq_ok_iff_spellsOut {tree : Expr} :
    parseExpr source false = .ok tree ↔
      ∃ symbols, SpellsOut source.toList symbols ∧ Derives .expression symbols tree ∧
        NestsWithin 200 symbols := by
  constructor
  · intro h
    obtain ⟨tokens, htokens, hderives, hnests⟩ := derives_of_parseExpr h
    exact ⟨_, spellsOut_of_tokenize htokens, hderives, hnests⟩
  · rintro ⟨symbols, hspells, hderives, hnests⟩
    obtain ⟨tokens, htokens, rfl⟩ := hspells.exists_tokenize
    exact parseExpr_of_derives htokens hderives hnests

end Calculator
