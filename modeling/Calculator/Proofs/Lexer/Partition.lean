import Mathlib.Tactic.IntervalCases
import Calculator.Proofs.Lexer.Cut

/-!
# The lexer partitions its source

The lexemes of a text, by their positions and without any scan: a lexeme stands at a position if it
is there and goes as far as it can on both sides (`LexemeAt`). Two kinds of lexeme stand for no
symbol, and `Refused` names them together with what is said about them.

* The tokens of a source are its lexemes in order, up to the first that is refused: each token
  stands for a lexeme at its place (`lexemeAt_of_mem_tokenize`), and each lexeme at a position
  before the failure is the lexeme of a token (`tokenize_of_lexemeAt`).
* The failure, if there is one, is at a refused lexeme (`refused_of_tokenize`), and before it there
  is nothing but blanks and characters of the alphabet (`mem_alphabet_of_tokenize`).

`tokenize_partitioned` has all of it, with the gaps and lexemes that make up the source.
-/

namespace Calculator

/-! ## Lexemes by position -/

/-- A lexeme stands at a position of a text: it is not the part of a longer run. -/
structure LexemeAt (text : List Char) (pos : Nat) (lexeme : List Char) : Prop where
  /-- It is a lexeme. -/
  isLexeme : IsLexeme lexeme
  /-- It is there, and no number runs into it or on behind it. -/
  stands : ∃ before behind, text = before ++ (lexeme ++ behind) ∧ before.length = pos ∧
    Apart before lexeme ∧ Apart lexeme behind

/-- The characters that symbols are written with. -/
def alphabet : List Char :=
  ['0', '1', '2', '3', '4', '5', '6', '7', '8', '9', '.', '+', '-', '*', '/', '(', ')']

/-- The lexemes that stand for no symbol, and the words for it. -/
inductive Refused : (lexeme : List Char) → (words : String) → Prop
  /-- A character that is neither blank nor in the alphabet. -/
  | unknown {c : Char} (notBlank : Text.isBlank c = false) (foreign : c ∉ alphabet) :
      Refused [c] ("unknown token: " ++ Text.quote (String.singleton c))
  /-- A run of digits and points with two points or more, or without a digit. -/
  | malformed {run : List Char} (nonempty : run ≠ [])
      (numeral : ∀ c ∈ run, isNumeralChar c = true)
      (wrong : 2 ≤ run.count '.' ∨ ∀ c ∈ run, c.isDigit = false) :
      Refused run ("invalid number literal: " ++ Text.quote (String.ofList run))

namespace LexemeAt

/-- A lexeme ends within the text. -/
lemma length_le {text lexeme : List Char} {pos : Nat} (h : LexemeAt text pos lexeme) :
    pos + lexeme.length ≤ text.length := by
  obtain ⟨before, behind, rfl, rfl, -⟩ := h.stands
  simp only [List.length_append]
  omega

/-- A lexeme begins before the end of the text. -/
lemma lt_length {text lexeme : List Char} {pos : Nat} (h : LexemeAt text pos lexeme) :
    pos < text.length := by
  have inside := h.length_le
  have positive := List.length_pos_iff.mpr h.isLexeme.ne_nil
  omega

/-- A lexeme begins with the character at its position, which is not blank. -/
lemma getElem?_eq {text lexeme : List Char} {pos : Nat} (h : LexemeAt text pos lexeme) :
    ∃ c, text[pos]? = some c ∧ Text.isBlank c = false := by
  obtain ⟨c, tail, rfl, notBlank⟩ := h.isLexeme.exists_cons
  obtain ⟨before, behind, rfl, rfl, -⟩ := h.stands
  exact ⟨c, by simp, notBlank⟩

end LexemeAt

/-! ## What is refused -/

/-- A decimal digit is one of the ten. -/
lemma mem_alphabet_of_isDigit {c : Char} (h : c.isDigit = true) : c ∈ alphabet := by
  simp only [Char.isDigit, Bool.and_eq_true, decide_eq_true_eq, ge_iff_le,
    UInt32.le_iff_toNat_le] at h
  obtain ⟨low, high⟩ : 48 ≤ c.toNat ∧ c.toNat ≤ 57 := h
  rw [← Char.ofNat_toNat c]
  interval_cases c.toNat <;> decide

/-- The alphabet is the digits, the point and the characters that stand for themselves. -/
lemma mem_alphabet_iff {c : Char} :
    c ∈ alphabet ↔ isNumeralChar c = true ∨ (Symbol.ofChar? c).isSome = true := by
  constructor
  · intro h
    simp only [alphabet, List.mem_cons, List.not_mem_nil, or_false] at h
    rcases h with rfl | rfl | rfl | rfl | rfl | rfl | rfl | rfl | rfl | rfl | rfl | rfl | rfl |
      rfl | rfl | rfl | rfl <;> decide
  · rintro (hnumeral | hchar)
    · simp only [isNumeralChar, Bool.or_eq_true, decide_eq_true_eq] at hnumeral
      rcases hnumeral with digit | rfl
      · exact mem_alphabet_of_isDigit digit
      · decide
    · obtain ⟨symbol, hsymbol⟩ := Option.isSome_iff_exists.mp hchar
      unfold Symbol.ofChar? at hsymbol
      split_ifs at hsymbol with hleft hright
      · subst hleft
        decide
      · subst hright
        decide
      · obtain ⟨op, hop, -⟩ := Option.map_eq_some_iff.mp hsymbol
        rw [Operator.ofSymbol?_eq_some_iff.mp hop]
        cases op <;> decide

/-- A run of digits and points denotes no number exactly if it has two points or more, or no digit.
-/
lemma ofNumeral?_eq_none_iff {run : List Char} (numeral : ∀ c ∈ run, isNumeralChar c = true) :
    Decimal.ofNumeral? run = none ↔ 2 ≤ run.count '.' ∨ ∀ c ∈ run, c.isDigit = false := by
  -- among digits and points, the points are what is no digit
  have point : ∀ {c : Char}, c ∈ run → c.isDigit = false → c = '.' := by
    intro c hc hdigit
    simpa [isNumeralChar, hdigit] using numeral c hc
  have whole := List.takeWhile_append_dropWhile (p := Char.isDigit) (l := run)
  have digits : ∀ c ∈ run.takeWhile Char.isDigit, c.isDigit = true := fun c hc =>
    List.mem_takeWhile_imp hc
  have none : (run.takeWhile Char.isDigit).count '.' = 0 := by
    rw [List.count_eq_zero]
    exact fun hmem => absurd (digits _ hmem) (by decide)
  generalize htake : run.takeWhile Char.isDigit = front at whole digits none
  cases hdrop : run.dropWhile Char.isDigit with
  | nil =>
      rw [hdrop, List.append_nil] at whole
      subst whole
      rw [Decimal.ofNumeral?, htake, hdrop, none]
      cases front with
      | nil => simp
      | cons c front => simp [digits c (by simp)]
  | cons c fraction =>
      rw [hdrop] at whole
      have stop := List.head?_dropWhile_not Char.isDigit run
      rw [hdrop] at stop
      obtain rfl : c = '.' := point (by simp [← whole]) stop
      rw [Decimal.ofNumeral?, htake, hdrop]
      by_cases hall : fraction.all Char.isDigit = true
      · rw [List.all_eq_true] at hall
        have single : run.count '.' = 1 := by
          have more : fraction.count '.' = 0 := by
            rw [List.count_eq_zero]
            exact fun hmem => absurd (hall _ hmem) (by decide)
          rw [← whole, List.count_append, List.count_cons_self, none, more]
        have noDigit : (∀ c ∈ run, c.isDigit = false) ↔ front = [] ∧ fraction = [] := by
          rw [← whole]
          constructor
          · intro h
            refine ⟨List.eq_nil_iff_forall_not_mem.mpr fun c hc => ?_,
              List.eq_nil_iff_forall_not_mem.mpr fun c hc => ?_⟩
            · simpa [digits c hc] using h c (by simp [hc])
            · simpa [hall c hc] using h c (by simp [hc])
          · rintro ⟨rfl, rfl⟩
            simp
        simpa [single, noDigit] using Or.inl hall
      · have more : 2 ≤ run.count '.' := by
          obtain ⟨c, hc, hdigit⟩ : ∃ c ∈ fraction, c.isDigit = false := by
            simpa using hall
          obtain rfl : c = '.' := point (by simp [← whole, hc]) hdigit
          have positive := List.count_pos_iff.mpr hc
          rw [← whole, List.count_append, List.count_cons_self]
          omega
        simp [hall, more]

/-- A lexeme that stands for no symbol is refused with the words for the cause. -/
lemma refused_of_ofLexeme {lexeme : List Char} {cause : Cause} (hlexeme : IsLexeme lexeme)
    (h : Symbol.ofLexeme lexeme = .error cause) : Refused lexeme cause.message := by
  cases hlexeme with
  | run nonempty numeral =>
      obtain ⟨c, tail, rfl⟩ := List.exists_cons_of_ne_nil nonempty
      simp only [Symbol.ofLexeme, numeral c (by simp), if_true] at h
      split at h <;> cases h
      rename_i hnone
      exact .malformed nonempty numeral ((ofNumeral?_eq_none_iff numeral).mp hnone)
  | @single c notBlank notNumeral =>
      simp only [Symbol.ofLexeme, notNumeral, Bool.false_eq_true, if_false] at h
      split at h <;> cases h
      rename_i hnone
      refine .unknown notBlank fun hmem => ?_
      rw [mem_alphabet_iff, notNumeral, hnone] at hmem
      simp at hmem

/-- A lexeme that is refused stands for no symbol. -/
lemma Refused.exists_cause {lexeme : List Char} {words : String} (h : Refused lexeme words) :
    ∃ cause, Symbol.ofLexeme lexeme = .error cause := by
  cases h with
  | @unknown c notBlank foreign =>
      rw [mem_alphabet_iff, not_or, Bool.not_eq_true, Bool.not_eq_true, Option.isSome_eq_false_iff,
        Option.isNone_iff_eq_none] at foreign
      refine ⟨.unknownCharacter c, ?_⟩
      simp only [Symbol.ofLexeme, foreign.1, foreign.2, Bool.false_eq_true, if_false]
  | malformed nonempty numeral wrong =>
      obtain ⟨c, tail, rfl⟩ := List.exists_cons_of_ne_nil nonempty
      rw [← ofNumeral?_eq_none_iff numeral] at wrong
      refine ⟨.malformedNumber (c :: tail), ?_⟩
      simp only [Symbol.ofLexeme, numeral c (by simp), if_true, wrong]

/-- A lexeme that spells a symbol is not refused. -/
lemma Spells.not_refused {lexeme : List Char} {symbol : Symbol} {words : String}
    (hspells : Spells lexeme symbol) (hrefused : Refused lexeme words) : False := by
  obtain ⟨cause, hcause⟩ := hrefused.exists_cause
  rw [hspells.ofLexeme] at hcause
  cases hcause

/-! ## Where the segments of a cut stand -/

/-- The segments are apart from the rest. -/
lemma Cut.apart {text rest : List Char} {segments : List Segment} (h : Cut text segments rest) :
    Apart (segments.flatMap Segment.written) rest := by
  induction h with
  | nil rest => exact .nil_left rest
  | cons segment apart later ih =>
      rw [List.flatMap_cons]
      cases later with
      | nil rest =>
          rw [List.flatMap_nil, List.append_nil, Segment.written,
            Apart.append_left_iff segment.spells.isLexeme.ne_nil]
          exact apart
      | cons next apart' later =>
          rw [Apart.append_left_iff (by simp [next.written_ne_nil])]
          exact ih

/-- A lexeme behind the segments and a gap stands at its position. -/
lemma Cut.lexemeAt {text gap lexeme behind : List Char} {segments : List Segment}
    (h : Cut text segments (gap ++ (lexeme ++ behind))) (hgap : IsGap gap)
    (hlexeme : IsLexeme lexeme) (apart : Apart lexeme behind) :
    LexemeAt text ((segments.flatMap Segment.written).length + gap.length) lexeme where
  isLexeme := hlexeme
  stands := by
    refine ⟨segments.flatMap Segment.written ++ gap, behind, ?_, List.length_append, ?_, apart⟩
    · rw [h.text_eq, List.append_assoc]
    · cases gap with
      | nil =>
          have whole := h.apart
          rw [List.nil_append, Apart.append_right_iff hlexeme.ne_nil] at whole
          rwa [List.append_nil]
      | cons c gap =>
          rw [Apart.append_left_iff (List.cons_ne_nil _ _)]
          exact .of_isGap_left hgap lexeme

/-- A cut may stop earlier, before any of its segments. -/
lemma Cut.split {text rest : List Char} {first second : List Segment}
    (h : Cut text (first ++ second) rest) :
    ∃ middle, Cut text first middle ∧ Cut middle second rest := by
  induction first generalizing text with
  | nil => exact ⟨text, .nil text, h⟩
  | cons segment first ih =>
      rw [List.cons_append] at h
      cases h with
      | cons segment apart later =>
          obtain ⟨middle, front, back⟩ := ih later
          exact ⟨middle, .cons segment apart front, back⟩

namespace Segment

/-- A token of segments is that of one of them, behind those before it. -/
lemma exists_of_mem_tokens {segments : List Segment} {pos : Nat} {token : Token}
    (h : token ∈ tokens pos segments) :
    ∃ before segment behind, segments = before ++ segment :: behind ∧
      token = ⟨segment.symbol, pos + (before.flatMap written).length + segment.gap.length⟩ := by
  induction segments generalizing pos with
  | nil => cases h
  | cons first segments ih =>
      rcases List.mem_cons.mp h with rfl | h
      · exact ⟨[], first, segments, rfl, rfl⟩
      · obtain ⟨before, segment, behind, rfl, rfl⟩ := ih h
        refine ⟨first :: before, segment, behind, rfl, ?_⟩
        rw [List.flatMap_cons, List.length_append, Nat.add_assoc pos]

/-- The tokens of segments stand between where these begin and where they end. -/
lemma pos_of_mem_tokens {segments : List Segment} {pos : Nat} {token : Token}
    (h : token ∈ tokens pos segments) :
    pos ≤ token.pos ∧ token.pos < pos + (segments.flatMap written).length := by
  obtain ⟨before, segment, behind, rfl, rfl⟩ := exists_of_mem_tokens h
  have positive := List.length_pos_iff.mpr segment.spells.isLexeme.ne_nil
  simp only [List.flatMap_append, List.flatMap_cons, List.length_append, written]
  omega

/-- The positions of the tokens of segments strictly increase. -/
lemma pairwise_tokens (segments : List Segment) (pos : Nat) :
    (tokens pos segments).Pairwise fun first second => first.pos < second.pos := by
  induction segments generalizing pos with
  | nil => exact .nil
  | cons segment segments ih =>
      refine .cons (fun token htoken => ?_) (ih _)
      have behind := (pos_of_mem_tokens htoken).1
      have positive := List.length_pos_iff.mpr segment.spells.isLexeme.ne_nil
      simp only [written, List.length_append] at behind
      show pos + segment.gap.length < token.pos
      omega

/-- The characters of a segment are blank or of the alphabet. -/
lemma mem_written {segment : Segment} {c : Char} (h : c ∈ segment.written) :
    Text.isBlank c = true ∨ c ∈ alphabet := by
  rcases List.mem_append.mp h with hgap | hlexeme
  · exact Or.inl (segment.isGap c hgap)
  · right
    rw [mem_alphabet_iff]
    obtain ⟨gap, lexeme, symbol, isGap, spells⟩ := segment
    cases spells with
    | number numeral value => exact Or.inl (numeral c hlexeme)
    | operator op =>
        rw [List.mem_singleton.mp hlexeme]
        cases op <;> decide
    | leftParen =>
        rw [List.mem_singleton.mp hlexeme]
        decide
    | rightParen =>
        rw [List.mem_singleton.mp hlexeme]
        decide

end Segment

/-- The characters of segments and of a gap behind them are blank or of the alphabet. -/
lemma Segment.mem_alphabet {segments : List Segment} {gap : List Char} (hgap : IsGap gap) {c : Char}
    (h : c ∈ segments.flatMap written ++ gap) : Text.isBlank c = true ∨ c ∈ alphabet := by
  rcases List.mem_append.mp h with hsegments | hc
  · obtain ⟨segment, -, hsegment⟩ := List.mem_flatMap.mp hsegments
    exact mem_written hsegment
  · exact Or.inl (hgap c hc)

/-- What stands behind a text jams where the text does, if the two are apart. -/
lemma Jams.append {rest gap lexeme behind : List Char} {cause : Cause}
    (h : Jams rest gap lexeme behind cause) {more : List Char} (apart : Apart rest more) :
    Jams (rest ++ more) gap lexeme (behind ++ more) cause where
  rest_eq := by simp [h.rest_eq]
  isGap := h.isGap
  isLexeme := h.isLexeme
  apart := by
    by_cases hbehind : behind = []
    · subst hbehind
      rw [h.rest_eq, List.append_nil, Apart.append_left_iff h.isLexeme.ne_nil] at apart
      exact apart
    · exact (Apart.append_right_iff hbehind).mpr h.apart
  refused := h.refused

/-! ## The tokens of a source -/

variable {source : String}

/-- The tokens of a source are those of its segments, and then it has ended or it jams. -/
lemma exists_cut_source (source : String) :
    ∃ segments gap behind, Cut source.toList segments (gap ++ behind) ∧ IsGap gap ∧
      ((behind = [] ∧
          tokenize source = (Segment.tokens 0 segments ++ [⟨.endOfInput, source.length⟩], none)) ∨
        ∃ lexeme more cause, Jams (gap ++ behind) gap lexeme more cause ∧
          tokenize source = (Segment.tokens 0 segments,
            some ⟨cause, (segments.flatMap Segment.written).length + gap.length⟩)) := by
  obtain ⟨segments, rest, hcut, hgap | ⟨gap, lexeme, more, cause, jams⟩⟩ := exists_cut source.toList
  · have length : 0 + (segments.flatMap Segment.written).length + rest.length = source.length := by
      rw [← String.length_toList, hcut.text_eq, List.length_append, Nat.zero_add]
    refine ⟨segments, rest, [], (List.append_nil rest).symm ▸ hcut, hgap, Or.inl ⟨rfl, ?_⟩⟩
    rw [tokenize_eq_tokensAt, tokensAt_of_cut hcut, tokensAt_of_isGap hgap, length]
  · obtain rfl := jams.rest_eq
    refine ⟨segments, gap, lexeme ++ more, hcut, jams.isGap, Or.inr ⟨lexeme, more, cause, jams, ?_⟩⟩
    rw [tokenize_eq_tokensAt, tokensAt_of_cut hcut, jams.tokensAt_eq, List.append_nil, Nat.zero_add]

/-- A token other than the end stands for a lexeme at its place. -/
lemma lexemeAt_of_mem_tokenize {token : Token} (h : token ∈ (tokenize source).1)
    (notEnd : token.isEnd = false) :
    ∃ lexeme, LexemeAt source.toList token.pos lexeme ∧ Spells lexeme token.symbol := by
  obtain ⟨segments, gap, behind, hcut, hgap, stop⟩ := exists_cut_source source
  have hmem : token ∈ Segment.tokens 0 segments := by
    rcases stop with ⟨-, htokens⟩ | ⟨lexeme, more, cause, -, htokens⟩
    · rw [htokens, List.mem_append, List.mem_singleton] at h
      rcases h with h | rfl
      · exact h
      · cases notEnd
    · rwa [htokens] at h
  obtain ⟨before, segment, later, rfl, rfl⟩ := Segment.exists_of_mem_tokens hmem
  obtain ⟨middle, front, back⟩ := hcut.split
  cases back with
  | cons segment apart later =>
      rw [Segment.written, List.append_assoc] at front
      refine ⟨segment.lexeme, ?_, segment.spells⟩
      rw [Nat.zero_add]
      exact front.lexemeAt segment.isGap segment.spells.isLexeme apart

/-- A source fails at a lexeme that is refused. -/
lemma refused_of_tokenize {fault : Fault} (h : (tokenize source).2 = some fault) :
    ∃ lexeme, LexemeAt source.toList fault.pos lexeme ∧ Refused lexeme fault.cause.message := by
  obtain ⟨segments, gap, behind, hcut, hgap, ⟨-, htokens⟩ | ⟨lexeme, more, cause, jams, htokens⟩⟩ :=
    exists_cut_source source
  · rw [htokens] at h
    cases h
  · rw [htokens] at h
    cases h
    rw [jams.rest_eq] at hcut
    exact ⟨lexeme, hcut.lexemeAt hgap jams.isLexeme jams.apart,
      refused_of_ofLexeme jams.isLexeme jams.refused⟩

/-- **A lexeme of a source is a token**, unless the source fails there or before. -/
lemma tokenize_of_lexemeAt {pos : Nat} {lexeme : List Char}
    (h : LexemeAt source.toList pos lexeme) :
    (∃ symbol, Spells lexeme symbol ∧ ⟨symbol, pos⟩ ∈ (tokenize source).1) ∨
      ∃ fault, (tokenize source).2 = some fault ∧ fault.pos ≤ pos := by
  obtain ⟨before, behind, hsource, rfl, apartBefore, apartBehind⟩ := h.stands
  have apart : Apart before (lexeme ++ behind) :=
    (Apart.append_right_iff h.isLexeme.ne_nil).mpr apartBefore
  rw [tokenize_eq_tokensAt, hsource]
  -- what stands before the lexeme is cut on its own
  obtain ⟨segments, rest, hcut, hgap | ⟨gap, bad, more, cause, jams⟩⟩ := exists_cut before
  · have length : 0 + (segments.flatMap Segment.written).length + rest.length = before.length := by
      rw [hcut.text_eq, List.length_append, Nat.zero_add]
    have hscan := scan_of_isLexeme hgap h.isLexeme apartBehind
    rw [tokensAt_of_cut (hcut.append apart)]
    cases hsymbol : Symbol.ofLexeme lexeme with
    | ok symbol =>
        left
        refine ⟨symbol, spells_of_ofLexeme h.isLexeme hsymbol, ?_⟩
        rw [tokensAt_of_symbol hscan hsymbol, length]
        simp [Token.followedBy]
    | error cause =>
        right
        refine ⟨⟨cause, before.length⟩, ?_, le_rfl⟩
        rw [tokensAt_of_fault hscan hsymbol, length]
  · right
    have apartRest : Apart rest (lexeme ++ behind) := by
      rw [hcut.text_eq, jams.rest_eq, ← List.append_assoc] at apart
      rw [jams.rest_eq]
      rwa [Apart.append_left_iff (by simp [jams.isLexeme.ne_nil])] at apart ⊢
    refine ⟨⟨cause, 0 + (segments.flatMap Segment.written).length + gap.length⟩, ?_, ?_⟩
    · rw [tokensAt_of_cut (hcut.append apart), (jams.append apartRest).tokensAt_eq]
    · have length := congrArg List.length hcut.text_eq
      rw [jams.rest_eq] at length
      simp only [List.length_append] at length
      show 0 + _ + _ ≤ before.length
      omega

/-- A source with a lexeme that is refused fails there or before. -/
lemma exists_fault_of_refused {pos : Nat} {lexeme : List Char} {words : String}
    (hlexeme : LexemeAt source.toList pos lexeme) (hrefused : Refused lexeme words) :
    ∃ fault, (tokenize source).2 = some fault ∧ fault.pos ≤ pos := by
  rcases tokenize_of_lexemeAt hlexeme with ⟨symbol, hspells, -⟩ | hfault
  · exact (hspells.not_refused hrefused).elim
  · exact hfault

/-- The positions of the tokens of a source strictly increase. -/
lemma pairwise_tokenize (source : String) :
    (tokenize source).1.Pairwise fun first second => first.pos < second.pos := by
  obtain ⟨segments, gap, behind, hcut, -, ⟨-, htokens⟩ | ⟨lexeme, more, cause, -, htokens⟩⟩ :=
    exists_cut_source source
  · rw [htokens, List.pairwise_append]
    refine ⟨Segment.pairwise_tokens segments 0, List.pairwise_singleton _ _, ?_⟩
    intro token htoken last hlast
    have inside := (Segment.pos_of_mem_tokens htoken).2
    have length := congrArg List.length hcut.text_eq
    rw [String.length_toList, List.length_append] at length
    rw [List.mem_singleton.mp hlast]
    show token.pos < source.length
    omega
  · rw [htokens]
    exact Segment.pairwise_tokens segments 0

/-- The end of the input is the last token of a source that does not fail, and no other token. -/
lemma exists_front_tokenize (source : String) :
    ∃ front, (∀ token ∈ front, token.isEnd = false) ∧ (tokenize source).1 =
      front ++ if (tokenize source).2 = none then [⟨.endOfInput, source.length⟩] else [] := by
  rw [tokenize_eq_tokensAt]
  obtain ⟨front, notEnd, hend | ⟨fault, hfault⟩⟩ := tokensAt_cases 0 source.toList
  · refine ⟨front, notEnd, ?_⟩
    rw [hend, if_pos rfl, Nat.zero_add, String.length_toList]
  · refine ⟨front, notEnd, ?_⟩
    rw [hfault, if_neg (Option.some_ne_none fault), List.append_nil]

/-- The end of the input is a token of a source that does not fail, at the end. -/
lemma end_of_mem_tokenize {token : Token} (h : token ∈ (tokenize source).1)
    (isEnd : token.isEnd = true) :
    (tokenize source).2 = none ∧ token = ⟨.endOfInput, source.length⟩ := by
  obtain ⟨front, notEnd, htokens⟩ := exists_front_tokenize source
  rw [htokens] at h
  rcases List.mem_append.mp h with hfront | hlast
  · rw [notEnd token hfront] at isEnd
    cases isEnd
  · split_ifs at hlast with hfault
    · exact ⟨hfault, List.mem_singleton.mp hlast⟩
    · cases hlast

/-- The tokens of a source stand before its failure. -/
lemma pos_lt_of_mem_tokenize {token : Token} {fault : Fault} (h : token ∈ (tokenize source).1)
    (hfault : (tokenize source).2 = some fault) : token.pos < fault.pos := by
  obtain ⟨segments, gap, behind, -, -, ⟨-, htokens⟩ | ⟨lexeme, more, cause, -, htokens⟩⟩ :=
    exists_cut_source source
  · rw [htokens] at hfault
    cases hfault
  · rw [htokens] at h hfault
    cases hfault
    have inside := (Segment.pos_of_mem_tokens h).2
    show token.pos < (segments.flatMap Segment.written).length + gap.length
    omega

/-- What stands before the failure of a source is blank or of the alphabet, and so is all of a
source that does not fail. -/
lemma mem_alphabet_of_tokenize {n : Nat}
    (h : ∀ fault, (tokenize source).2 = some fault → n ≤ fault.pos) :
    ∀ c ∈ source.toList.take n, Text.isBlank c = true ∨ c ∈ alphabet := by
  intro c hc
  obtain ⟨segments, gap, behind, hcut, hgap, ⟨rfl, -⟩ | ⟨lexeme, more, cause, -, htokens⟩⟩ :=
    exists_cut_source source
  · have whole := hcut.text_eq
    rw [List.append_nil] at whole
    rw [whole] at hc
    exact Segment.mem_alphabet hgap (List.mem_of_mem_take hc)
  · have front : n ≤ (segments.flatMap Segment.written ++ gap).length := by
      rw [List.length_append]
      exact h _ (by rw [htokens])
    rw [hcut.text_eq, ← List.append_assoc, List.take_append_of_le_length front] at hc
    exact Segment.mem_alphabet hgap (List.mem_of_mem_take hc)

/-- What the lexer makes of a source, said of the characters of the source. -/
structure Partitioned (source : String) (tokens : List Token) (fault : Option Fault) : Prop where
  /-- The positions of the tokens strictly increase. -/
  increasing : tokens.Pairwise fun first second => first.pos < second.pos
  /-- Gaps of blanks and the lexemes of the tokens, in this order, are what was scanned: all of the
  source, or what stands before the failure. -/
  rebuilt : ∃ (segments : List Segment) (gap rest : List Char), IsGap gap ∧
    source.toList = segments.flatMap Segment.written ++ (gap ++ rest) ∧
      match fault with
      | none => rest = [] ∧ tokens = Segment.tokens 0 segments ++ [⟨.endOfInput, source.length⟩]
      | some f => f.pos + rest.length = source.length ∧ tokens = Segment.tokens 0 segments
  /-- Each token other than the end stands at a lexeme, which spells its symbol. -/
  sound : ∀ token ∈ tokens, token.isEnd = false →
    ∃ lexeme, LexemeAt source.toList token.pos lexeme ∧ Spells lexeme token.symbol
  /-- Each lexeme, up to the failure, is the lexeme of a token. -/
  complete : ∀ pos lexeme, LexemeAt source.toList pos lexeme →
    (∀ f, fault = some f → pos < f.pos) →
      ∃ symbol, Spells lexeme symbol ∧ ⟨symbol, pos⟩ ∈ tokens
  /-- The end is the last token if nothing fails, behind the last character, and no other token. -/
  ended : ∃ front, (∀ token ∈ front, token.isEnd = false) ∧
    tokens = front ++ if fault = none then [⟨.endOfInput, source.length⟩] else []
  /-- The source fails if it has a lexeme that is refused, and not otherwise. -/
  fails_iff : fault ≠ none ↔
    ∃ pos lexeme words, LexemeAt source.toList pos lexeme ∧ Refused lexeme words
  /-- The failure is reported at the first lexeme that is refused, in the words for it. -/
  reported : ∀ f, fault = some f →
    (∃ lexeme words, LexemeAt source.toList f.pos lexeme ∧ Refused lexeme words ∧
      f.diagnostic source = ⟨.lexical, words, some ⟨source, f.pos⟩⟩) ∧
    ∀ pos lexeme words, LexemeAt source.toList pos lexeme → Refused lexeme words → f.pos ≤ pos

/-- **The lexer partitions every source** into gaps and lexemes, hands out a token for each lexeme
up to the first that is refused, and fails there and for no other reason. -/
theorem tokenize_partitioned (source : String) :
    Partitioned source (tokenize source).1 (tokenize source).2 where
  increasing := pairwise_tokenize source
  rebuilt := by
    obtain ⟨segments, gap, behind, hcut, hgap, stop⟩ := exists_cut_source source
    refine ⟨segments, gap, behind, hgap, hcut.text_eq, ?_⟩
    rcases stop with ⟨hnil, htokens⟩ | ⟨lexeme, more, cause, -, htokens⟩
    · rw [htokens]
      exact ⟨hnil, rfl⟩
    · have length := congrArg List.length hcut.text_eq
      rw [String.length_toList, List.length_append, List.length_append] at length
      rw [htokens]
      refine ⟨?_, rfl⟩
      show (segments.flatMap Segment.written).length + gap.length + behind.length = source.length
      omega
  sound := by
    intro token htoken notEnd
    exact lexemeAt_of_mem_tokenize htoken notEnd
  complete := by
    intro pos lexeme hlexeme hbefore
    rcases tokenize_of_lexemeAt hlexeme with htoken | ⟨fault, hfault, hpos⟩
    · exact htoken
    · exact absurd (hbefore fault hfault) (by omega)
  ended := exists_front_tokenize source
  fails_iff := by
    constructor
    · intro hfails
      obtain ⟨fault, hfault⟩ := Option.ne_none_iff_exists'.mp hfails
      obtain ⟨lexeme, hlexeme, hrefused⟩ := refused_of_tokenize hfault
      exact ⟨fault.pos, lexeme, _, hlexeme, hrefused⟩
    · rintro ⟨pos, lexeme, words, hlexeme, hrefused⟩
      obtain ⟨fault, hfault, -⟩ := exists_fault_of_refused hlexeme hrefused
      rw [hfault]
      exact Option.some_ne_none fault
  reported := by
    intro fault hfault
    constructor
    · obtain ⟨lexeme, hlexeme, hrefused⟩ := refused_of_tokenize hfault
      refine ⟨lexeme, fault.cause.message, hlexeme, hrefused, ?_⟩
      rw [tokenize_eq_tokensAt] at hfault
      rw [Fault.diagnostic, kind_of_tokensAt hfault]
    · intro pos lexeme words hlexeme hrefused
      obtain ⟨first, hfirst, hpos⟩ := exists_fault_of_refused hlexeme hrefused
      rw [hfault] at hfirst
      cases hfirst
      exact hpos

end Calculator
