import Mathlib.Data.List.TakeWhile
import Mathlib.Tactic.Common
import Calculator.Proofs.Lexer.Stream

/-!
# Texts cut into lexemes

What the lexer does to a text, said of the text alone. A **gap** is a text of blanks (`IsGap`), a
**lexeme** is a run of digits and points or a single character that is neither blank nor part of a
number (`IsLexeme`), and two texts are **apart** if no number runs from one into the other
(`Apart`).

`Cut text segments rest` says that a text begins with segments, each a gap and a lexeme that spells
a symbol, no lexeme running into what stands behind it, and that the rest follows them.

* A text that is cut is lexed segment by segment, and the stream of the rest follows
  (`tokensAt_of_cut`).
* Every text is cut up to its end or up to the first lexeme that spells nothing (`exists_cut`).
* What stands behind a text does not change how it is cut, as long as the two are apart
  (`Cut.append`).

So the stream of a text put together from two follows from the streams of both
(`tokensAt_append`), a text that ends before one of its tokens has the tokens before that one
(`tokensAt_take`), and a text that begins further on has the same tokens further on
(`tokensAt_add`).
-/

namespace Calculator

/-! ## Gaps, lexemes, and what keeps them apart -/

/-- A text of blanks only. -/
def IsGap (text : List Char) : Prop :=
  ∀ c ∈ text, Text.isBlank c = true

/-- A run of digits and points, or a single character that is neither blank nor one of these. -/
inductive IsLexeme : List Char → Prop
  /-- A run of digits and points. -/
  | run {text : List Char} (nonempty : text ≠ []) (numeral : ∀ c ∈ text, isNumeralChar c = true) :
      IsLexeme text
  /-- Any other character. -/
  | single {c : Char} (notBlank : Text.isBlank c = false) (notNumeral : isNumeralChar c = false) :
      IsLexeme [c]

/-- No number runs from the first text into the second: a digit or a point does not both end the one
and begin the other. -/
def Apart (first second : List Char) : Prop :=
  first.getLast?.any isNumeralChar = false ∨ second.head?.any isNumeralChar = false

/-- Nothing is a gap. -/
lemma isGap_nil : IsGap [] := fun _ hc => nomatch hc

/-- A lexeme has a character. -/
lemma IsLexeme.ne_nil {lexeme : List Char} (h : IsLexeme lexeme) : lexeme ≠ [] := by
  cases h with
  | run nonempty numeral => exact nonempty
  | single notBlank notNumeral => exact List.cons_ne_nil _ _

/-- A lexeme begins with a character that is not blank. -/
lemma IsLexeme.exists_cons {lexeme : List Char} (h : IsLexeme lexeme) :
    ∃ c tail, lexeme = c :: tail ∧ Text.isBlank c = false := by
  cases h with
  | run nonempty numeral =>
      obtain ⟨c, tail, rfl⟩ := List.exists_cons_of_ne_nil nonempty
      exact ⟨c, tail, rfl, isBlank_eq_false_of_isNumeralChar (numeral c (by simp))⟩
  | @single c notBlank notNumeral => exact ⟨c, [], rfl, notBlank⟩

namespace Apart

/-- Nothing is apart from any text. -/
lemma nil_left (text : List Char) : Apart [] text := Or.inl rfl

/-- Any text is apart from nothing. -/
lemma nil_right (text : List Char) : Apart text [] := Or.inr rfl

/-- Only the end of the first text matters. -/
lemma append_left_iff {first second third : List Char} (h : second ≠ []) :
    Apart (first ++ second) third ↔ Apart second third := by
  obtain ⟨c, hc⟩ := Option.isSome_iff_exists.mp (List.getLast?_isSome.mpr h)
  rw [Apart, Apart, List.getLast?_append, hc, Option.some_or]

/-- Only the beginning of the second text matters. -/
lemma append_right_iff {first second third : List Char} (h : second ≠ []) :
    Apart first (second ++ third) ↔ Apart first second := by
  obtain ⟨c, tail, rfl⟩ := List.exists_cons_of_ne_nil h
  exact Iff.rfl

/-- Less of the second text is apart from the first one too. -/
lemma of_append_right {first second third : List Char} (h : Apart first (second ++ third)) :
    Apart first second := by
  cases second with
  | nil => exact nil_right first
  | cons c second => exact h

/-- A text that ends with a blank is apart from any other. -/
lemma of_isGap_left {gap : List Char} (hgap : IsGap gap) (text : List Char) : Apart gap text := by
  left
  cases hlast : gap.getLast? with
  | none => rfl
  | some c =>
      have blank := hgap c (List.mem_of_getLast? hlast)
      rw [Option.any_some, Bool.eq_false_iff]
      intro numeral
      rw [isBlank_eq_false_of_isNumeralChar numeral] at blank
      cases blank

end Apart

/-! ## The first lexeme of a text -/

/-- A gap has no lexeme. -/
lemma scan_of_isGap {text : List Char} (h : IsGap text) : scan text = .finished := by
  have dropped : text.dropWhile Text.isBlank = [] := List.dropWhile_eq_nil_iff.mpr h
  rw [scan, dropped]

/-- A text without a lexeme is a gap. -/
lemma isGap_of_scan {text : List Char} (h : scan text = .finished) : IsGap text := by
  unfold scan at h
  split at h
  · rename_i hdrop
    exact List.dropWhile_eq_nil_iff.mp hdrop
  · cases h

/-- Behind a run of digits and points that is apart from it, a text does not begin with another. -/
lemma Apart.head_of_run {run behind : List Char} (h : Apart run behind) (nonempty : run ≠ [])
    (numeral : ∀ c ∈ run, isNumeralChar c = true) : behind.head?.any isNumeralChar = false := by
  rcases h with hlast | hhead
  · obtain ⟨c, hc⟩ := Option.isSome_iff_exists.mp (List.getLast?_isSome.mpr nonempty)
    rw [hc, Option.any_some, numeral c (List.mem_of_getLast? hc)] at hlast
    cases hlast
  · exact hhead

/-- A lexeme is split off as it stands from a text that it is apart from. -/
lemma splitLexeme_of_isLexeme {c : Char} {tail behind : List Char} (hlexeme : IsLexeme (c :: tail))
    (apart : Apart (c :: tail) behind) : splitLexeme c (tail ++ behind) = (c :: tail, behind) := by
  cases hlexeme with
  | run nonempty numeral =>
      have others : ∀ d ∈ tail, isNumeralChar d = true := fun d hd => numeral d (by simp [hd])
      have stop := apart.head_of_run nonempty numeral
      have taken : behind.takeWhile isNumeralChar = [] := by
        cases behind with
        | nil => rfl
        | cons d behind => exact List.takeWhile_cons_of_neg (by simpa using stop)
      have kept : behind.dropWhile isNumeralChar = behind := by
        have whole := List.takeWhile_append_dropWhile (p := isNumeralChar) (l := behind)
        rwa [taken, List.nil_append] at whole
      rw [splitLexeme, if_pos (numeral c (by simp)), List.takeWhile_append_of_pos others,
        List.dropWhile_append_of_pos others, taken, kept, List.append_nil]
  | single notBlank notNumeral =>
      rw [splitLexeme, if_neg (by simp [notNumeral])]
      rfl

/-- What is split off is a lexeme, apart from what follows it. -/
lemma isLexeme_splitLexeme {c : Char} (notBlank : Text.isBlank c = false) (text : List Char) :
    IsLexeme (splitLexeme c text).1 ∧ Apart (splitLexeme c text).1 (splitLexeme c text).2 := by
  by_cases hnumeral : isNumeralChar c = true
  · rw [splitLexeme, if_pos hnumeral]
    constructor
    · refine .run (List.cons_ne_nil _ _) fun d hd => ?_
      rcases List.mem_cons.mp hd with rfl | hd
      · exact hnumeral
      · exact List.mem_takeWhile_imp hd
    · right
      have stop := List.head?_dropWhile_not isNumeralChar text
      cases hhead : (text.dropWhile isNumeralChar).head? with
      | none => rfl
      | some d =>
          rw [hhead] at stop
          exact stop
  · rw [splitLexeme, if_neg hnumeral]
    rw [Bool.not_eq_true] at hnumeral
    refine ⟨.single notBlank hnumeral, Or.inl ?_⟩
    rw [List.getLast?_singleton, Option.any_some, hnumeral]

/-- The first lexeme of a text, behind a gap and apart from what follows it. -/
lemma scan_of_isLexeme {gap lexeme behind : List Char} (hgap : IsGap gap)
    (hlexeme : IsLexeme lexeme) (apart : Apart lexeme behind) :
    scan (gap ++ (lexeme ++ behind)) = .lexeme gap.length lexeme behind := by
  obtain ⟨c, tail, rfl, notBlank⟩ := hlexeme.exists_cons
  have notBlank' : ¬Text.isBlank c = true := by simp [notBlank]
  have dropped : (gap ++ (c :: tail ++ behind)).dropWhile Text.isBlank = c :: (tail ++ behind) := by
    rw [List.dropWhile_append_of_pos hgap, List.cons_append, List.dropWhile_cons_of_neg notBlank']
  have taken : (gap ++ (c :: tail ++ behind)).takeWhile Text.isBlank = gap := by
    rw [List.takeWhile_append_of_pos hgap, List.cons_append, List.takeWhile_cons_of_neg notBlank',
      List.append_nil]
  rw [scan, dropped, taken]
  simp only [splitLexeme_of_isLexeme hlexeme apart]

/-- The first lexeme that is found stands behind a gap and apart from what follows it. -/
lemma exists_gap_of_scan {text lexeme behind : List Char} {n : Nat}
    (h : scan text = .lexeme n lexeme behind) :
    ∃ gap, text = gap ++ (lexeme ++ behind) ∧ gap.length = n ∧ IsGap gap ∧ IsLexeme lexeme ∧
      Apart lexeme behind := by
  obtain ⟨whole, length, -⟩ := scan_eq_lexeme h
  refine ⟨_, whole, length.symm, fun c hc => List.mem_takeWhile_imp hc, ?_⟩
  unfold scan at h
  split at h
  · cases h
  · rename_i c tail hdrop
    have notBlank := List.head?_dropWhile_not Text.isBlank text
    rw [hdrop] at notBlank
    cases h
    exact isLexeme_splitLexeme notBlank tail

/-! ## What a lexeme spells -/

/-- The symbol that a lexeme spells. -/
inductive Spells : List Char → Symbol → Prop
  /-- A run of digits and points that denotes a number. -/
  | number {run : List Char} {d : Decimal} (numeral : ∀ c ∈ run, isNumeralChar c = true)
      (value : Decimal.ofNumeral? run = some d) : Spells run (.number (.ofDecimal false d))
  /-- The character of an operator. -/
  | operator (op : Operator) : Spells [op.symbol] (.operator op)
  /-- The parenthesis that opens a group. -/
  | leftParen : Spells ['('] .leftParen
  /-- The parenthesis that closes a group. -/
  | rightParen : Spells [')'] .rightParen

/-- Nothing spells the end of the input. -/
lemma Spells.ne_endOfInput {lexeme : List Char} {symbol : Symbol} (h : Spells lexeme symbol) :
    symbol ≠ .endOfInput := by
  cases h <;> exact fun heq => nomatch heq

/-- What spells a symbol is a lexeme. -/
lemma Spells.isLexeme {lexeme : List Char} {symbol : Symbol} (h : Spells lexeme symbol) :
    IsLexeme lexeme := by
  cases h with
  | number numeral value =>
      refine .run ?_ numeral
      rintro rfl
      cases value
  | operator op => cases op <;> exact .single (by decide) (by decide)
  | leftParen => exact .single (by decide) (by decide)
  | rightParen => exact .single (by decide) (by decide)

/-- What spells a symbol stands for it. -/
lemma Spells.ofLexeme {lexeme : List Char} {symbol : Symbol} (h : Spells lexeme symbol) :
    Symbol.ofLexeme lexeme = .ok symbol := by
  cases h with
  | @number _ d numeral value =>
      cases lexeme with
      | nil => cases value
      | cons c tail => simp only [Symbol.ofLexeme, numeral c (by simp), value, if_true]
  | operator op => cases op <;> rfl
  | leftParen => rfl
  | rightParen => rfl

/-- A character that stands for itself spells its symbol. -/
lemma spells_of_ofChar? {c : Char} {symbol : Symbol} (h : Symbol.ofChar? c = some symbol) :
    Spells [c] symbol := by
  unfold Symbol.ofChar? at h
  split_ifs at h with hleft hright
  · cases h
    exact hleft ▸ .leftParen
  · cases h
    exact hright ▸ .rightParen
  · obtain ⟨op, hop, rfl⟩ := Option.map_eq_some_iff.mp h
    exact Operator.ofSymbol?_eq_some_iff.mp hop ▸ .operator op

/-- A lexeme that stands for a symbol spells it. -/
lemma spells_of_ofLexeme {lexeme : List Char} {symbol : Symbol} (hlexeme : IsLexeme lexeme)
    (h : Symbol.ofLexeme lexeme = .ok symbol) : Spells lexeme symbol := by
  cases hlexeme with
  | run nonempty numeral =>
      obtain ⟨c, tail, rfl⟩ := List.exists_cons_of_ne_nil nonempty
      simp only [Symbol.ofLexeme, numeral c (by simp), if_true] at h
      split at h <;> cases h
      rename_i d value
      exact .number numeral value
  | @single c notBlank notNumeral =>
      simp only [Symbol.ofLexeme, notNumeral, Bool.false_eq_true, if_false] at h
      split at h <;> cases h
      rename_i hchar
      exact spells_of_ofChar? hchar

/-! ## Segments of a text -/

/-- A gap and the lexeme behind it. -/
structure Segment where
  /-- The gap. -/
  gap : List Char
  /-- The lexeme. -/
  lexeme : List Char
  /-- The symbol of the lexeme. -/
  symbol : Symbol
  /-- The gap consists of blanks. -/
  isGap : IsGap gap
  /-- The lexeme spells the symbol. -/
  spells : Spells lexeme symbol

namespace Segment

/-- The characters of a segment. -/
def written (segment : Segment) : List Char :=
  segment.gap ++ segment.lexeme

/-- The tokens of segments that follow one another from a position on. -/
def tokens : (pos : Nat) → (segments : List Segment) → List Token
  | _, [] => []
  | pos, segment :: segments =>
      ⟨segment.symbol, pos + segment.gap.length⟩ :: tokens (pos + segment.written.length) segments

/-- A segment is not empty. -/
lemma written_ne_nil (segment : Segment) : segment.written ≠ [] := by
  simp [written, segment.spells.isLexeme.ne_nil]

end Segment

/-- A text begins with segments, of which no lexeme runs into what stands behind it, and the rest
follows them. -/
inductive Cut : (text : List Char) → (segments : List Segment) → (rest : List Char) → Prop
  /-- All of the text is left. -/
  | nil (rest : List Char) : Cut rest [] rest
  /-- One segment is cut off, and then the others. -/
  | cons {behind rest : List Char} {segments : List Segment} (segment : Segment)
      (apart : Apart segment.lexeme behind) (later : Cut behind segments rest) :
      Cut (segment.written ++ behind) (segment :: segments) rest

/-- A text goes on, behind a gap, with a lexeme that stands for no symbol. -/
structure Jams (rest gap lexeme behind : List Char) (cause : Cause) : Prop where
  /-- The gap, the lexeme, and what follows it. -/
  rest_eq : rest = gap ++ (lexeme ++ behind)
  /-- The gap consists of blanks. -/
  isGap : IsGap gap
  /-- The lexeme is one. -/
  isLexeme : IsLexeme lexeme
  /-- It goes as far as it can. -/
  apart : Apart lexeme behind
  /-- It stands for no symbol. -/
  refused : Symbol.ofLexeme lexeme = .error cause

namespace Cut

/-- Segments and rest are the text, character for character. -/
lemma text_eq {text rest : List Char} {segments : List Segment} (h : Cut text segments rest) :
    text = segments.flatMap Segment.written ++ rest := by
  induction h with
  | nil rest => rfl
  | cons segment apart later ih => rw [List.flatMap_cons, List.append_assoc, ← ih]

/-- What stands behind a text that it is apart from does not change how it is cut. -/
lemma append {first second rest : List Char} {segments : List Segment} (h : Cut first segments rest)
    (apart : Apart first second) : Cut (first ++ second) segments (rest ++ second) := by
  induction h with
  | nil rest => exact .nil _
  | @cons behind rest segments segment apartLexeme later ih =>
      rw [List.append_assoc]
      by_cases hbehind : behind = []
      · subst hbehind
        rw [List.append_nil, Segment.written,
          Apart.append_left_iff segment.spells.isLexeme.ne_nil] at apart
        exact .cons segment apart (ih (.nil_left _))
      · rw [Apart.append_left_iff hbehind] at apart
        exact .cons segment ((Apart.append_right_iff hbehind).mpr apartLexeme) (ih apart)

/-- The segments and a gap behind them are cut as they were with more behind them. -/
lemma front {text gap behind : List Char} {segments : List Segment}
    (h : Cut text segments (gap ++ behind)) :
    Cut (segments.flatMap Segment.written ++ gap) segments gap := by
  generalize hrest : gap ++ behind = rest at h
  induction h with
  | nil rest => exact .nil gap
  | cons segment apart later ih =>
      rw [later.text_eq, ← hrest, ← List.append_assoc] at apart
      rw [List.flatMap_cons, List.append_assoc]
      exact .cons segment apart.of_append_right (ih hrest)

end Cut

/-- **Every text is cut**, up to its end or up to the first lexeme that stands for no symbol. -/
lemma exists_cut (text : List Char) :
    ∃ segments rest, Cut text segments rest ∧
      (IsGap rest ∨ ∃ gap lexeme behind cause, Jams rest gap lexeme behind cause) := by
  induction hn : text.length using Nat.strongRecOn generalizing text with
  | ind n ih =>
      subst hn
      cases hscan : scan text with
      | finished => exact ⟨[], text, .nil text, Or.inl (isGap_of_scan hscan)⟩
      | lexeme n lexeme behind =>
          have shorter := length_rest_lt_of_scan hscan
          obtain ⟨gap, rfl, -, hgap, hlexeme, apart⟩ := exists_gap_of_scan hscan
          cases hsymbol : Symbol.ofLexeme lexeme with
          | error cause =>
              exact ⟨[], _, .nil _, Or.inr ⟨gap, lexeme, behind, cause, rfl, hgap, hlexeme, apart,
                hsymbol⟩⟩
          | ok symbol =>
              obtain ⟨segments, rest, later, stop⟩ := ih _ shorter behind rfl
              refine ⟨⟨gap, lexeme, symbol, hgap, spells_of_ofLexeme hlexeme hsymbol⟩ :: segments,
                rest, ?_, stop⟩
              rw [← List.append_assoc]
              exact .cons ⟨gap, lexeme, symbol, hgap, _⟩ apart later

/-! ## The stream of a text that is cut -/

/-- A gap in front of a text moves the position only. -/
lemma tokensAt_gap {gap : List Char} (hgap : IsGap gap) (pos : Nat) (text : List Char) :
    tokensAt pos (gap ++ text) = tokensAt (pos + gap.length) text := by
  induction gap generalizing pos with
  | nil => rfl
  | cons c gap ih =>
      rw [List.cons_append, tokensAt_blank (hgap c (by simp)), ih fun d hd => hgap d (by simp [hd]),
        List.length_cons, Nat.add_assoc, Nat.add_comm 1]

/-- The stream of a gap is the end of the input. -/
lemma tokensAt_of_isGap {text : List Char} (h : IsGap text) (pos : Nat) :
    tokensAt pos text = ([⟨.endOfInput, pos + text.length⟩], none) :=
  tokensAt_of_finished (scan_of_isGap h) pos

/-- The stream of a text that jams is a failure. -/
lemma Jams.tokensAt_eq {rest gap lexeme behind : List Char} {cause : Cause}
    (h : Jams rest gap lexeme behind cause) (pos : Nat) :
    tokensAt pos rest = ([], some ⟨cause, pos + gap.length⟩) := by
  rw [h.rest_eq]
  exact tokensAt_of_fault (scan_of_isLexeme h.isGap h.isLexeme h.apart) h.refused pos

/-- **A text that is cut is lexed segment by segment**, and the stream of the rest follows. -/
lemma tokensAt_of_cut {text rest : List Char} {segments : List Segment} (h : Cut text segments rest)
    (pos : Nat) :
    tokensAt pos text =
      (Segment.tokens pos segments ++
          (tokensAt (pos + (segments.flatMap Segment.written).length) rest).1,
        (tokensAt (pos + (segments.flatMap Segment.written).length) rest).2) := by
  induction h generalizing pos with
  | nil rest => rfl
  | cons segment apart later ih =>
      have hscan := scan_of_isLexeme segment.isGap segment.spells.isLexeme apart
      have stop : pos + segment.gap.length + segment.lexeme.length =
          pos + segment.written.length := by
        rw [Segment.written, List.length_append, Nat.add_assoc]
      rw [Segment.written, List.append_assoc, tokensAt_of_symbol hscan segment.spells.ofLexeme,
        stop, ih, List.flatMap_cons, List.length_append, ← Nat.add_assoc]
      rfl

/-- The stream of two texts that are apart, the first of which is lexed to its end. -/
lemma tokensAt_append {first second : List Char} {pos : Nat} {tokens : List Token} {last : Token}
    (h : tokensAt pos first = (tokens ++ [last], none)) (apart : Apart first second) :
    tokensAt pos (first ++ second) =
      (tokens ++ (tokensAt (pos + first.length) second).1,
        (tokensAt (pos + first.length) second).2) := by
  obtain ⟨segments, rest, hcut, hgap | ⟨gap, lexeme, behind, cause, jams⟩⟩ := exists_cut first
  · rw [tokensAt_of_cut hcut, tokensAt_of_isGap hgap] at h
    obtain rfl : Segment.tokens pos segments = tokens :=
      List.append_inj_left' (Prod.mk.inj h).1 rfl
    have length : pos + (segments.flatMap Segment.written).length + rest.length =
        pos + first.length := by
      rw [hcut.text_eq, List.length_append, Nat.add_assoc]
    rw [tokensAt_of_cut (hcut.append apart), tokensAt_gap hgap, length]
  · rw [tokensAt_of_cut hcut, jams.tokensAt_eq] at h
    cases (Prod.mk.inj h).2

/-- A text that ends before one of its tokens has the tokens before that one. -/
lemma tokensAt_take {text : List Char} {pos : Nat} {before later : List Token} {token : Token}
    {fault : Option Fault} (h : tokensAt pos text = (before ++ token :: later, fault)) :
    pos ≤ token.pos ∧
      tokensAt pos (text.take (token.pos - pos)) =
        (before ++ [⟨.endOfInput, token.pos⟩], none) := by
  induction before generalizing pos text with
  | nil =>
      cases hscan : scan text with
      | finished =>
          rw [tokensAt_of_finished hscan] at h
          simp only [List.nil_append, Prod.mk.injEq, List.cons.injEq] at h
          obtain ⟨⟨rfl, -⟩, -⟩ := h
          refine ⟨Nat.le_add_right _ _, ?_⟩
          rw [Nat.add_sub_cancel_left, List.take_length, tokensAt_of_finished hscan]
          rfl
      | lexeme n lexeme behind =>
          obtain ⟨gap, rfl, rfl, hgap, hlexeme, apart⟩ := exists_gap_of_scan hscan
          cases hsymbol : Symbol.ofLexeme lexeme with
          | error cause =>
              rw [tokensAt_of_fault hscan hsymbol] at h
              cases (Prod.mk.inj h).1
          | ok symbol =>
              rw [tokensAt_of_symbol hscan hsymbol] at h
              simp only [Token.followedBy, List.nil_append, Prod.mk.injEq, List.cons.injEq] at h
              obtain ⟨⟨rfl, -⟩, -⟩ := h
              refine ⟨Nat.le_add_right _ _, ?_⟩
              rw [Nat.add_sub_cancel_left, List.take_left, tokensAt_of_isGap hgap]
              rfl
  | cons first before ih =>
      cases hscan : scan text with
      | finished =>
          rw [tokensAt_of_finished hscan] at h
          simp at h
      | lexeme n lexeme behind =>
          obtain ⟨gap, rfl, rfl, hgap, hlexeme, apart⟩ := exists_gap_of_scan hscan
          cases hsymbol : Symbol.ofLexeme lexeme with
          | error cause =>
              rw [tokensAt_of_fault hscan hsymbol] at h
              cases (Prod.mk.inj h).1
          | ok symbol =>
              rw [tokensAt_of_symbol hscan hsymbol] at h
              simp only [Token.followedBy, List.cons_append, Prod.mk.injEq, List.cons.injEq] at h
              obtain ⟨⟨rfl, hlater⟩, hfault⟩ := h
              obtain ⟨hpos, hshort⟩ := ih (Prod.ext hlater hfault)
              have length : token.pos - pos = gap.length + (lexeme.length +
                  (token.pos - (pos + gap.length + lexeme.length))) := by
                omega
              have apart' : Apart lexeme
                  (behind.take (token.pos - (pos + gap.length + lexeme.length))) := by
                rw [← List.take_append_drop (token.pos - (pos + gap.length + lexeme.length)) behind]
                  at apart
                exact apart.of_append_right
              refine ⟨by omega, ?_⟩
              rw [length, List.take_length_add_append, List.take_length_add_append,
                tokensAt_of_symbol (scan_of_isLexeme hgap hlexeme apart') hsymbol, hshort]
              rfl

/-! ## Streams from another position -/

/-- A token further on. -/
def Token.shift (distance : Nat) (token : Token) : Token :=
  ⟨token.symbol, token.pos + distance⟩

/-- A fault further on. -/
def Fault.shift (distance : Nat) (fault : Fault) : Fault :=
  ⟨fault.cause, fault.pos + distance⟩

/-- A text that begins further on has its stream further on. -/
lemma tokensAt_add (pos distance : Nat) (text : List Char) :
    tokensAt (pos + distance) text =
      ((tokensAt pos text).1.map (Token.shift distance),
        (tokensAt pos text).2.map (Fault.shift distance)) := by
  induction hn : text.length using Nat.strongRecOn generalizing pos text with
  | ind n ih =>
      subst hn
      cases hscan : scan text with
      | finished =>
          rw [tokensAt_of_finished hscan, tokensAt_of_finished hscan, Nat.add_right_comm]
          rfl
      | lexeme gap lexeme rest =>
          cases hsymbol : Symbol.ofLexeme lexeme with
          | error cause =>
              rw [tokensAt_of_fault hscan hsymbol, tokensAt_of_fault hscan hsymbol,
                Nat.add_right_comm]
              rfl
          | ok symbol =>
              have later := ih _ (length_rest_lt_of_scan hscan) (pos + gap + lexeme.length) rest rfl
              have stop : pos + distance + gap + lexeme.length =
                  pos + gap + lexeme.length + distance := by
                omega
              rw [tokensAt_of_symbol hscan hsymbol, tokensAt_of_symbol hscan hsymbol, stop, later,
                Nat.add_right_comm pos distance]
              rfl

end Calculator
