import Calculator.Proofs.Parser.Automaton
import Calculator.Proofs.Parser.Spelling

/-!
# Errors are reported as early as possible

The automaton goes on exactly as long as what it has read can be completed. From every stance a text
leads to acceptance: a number if an operand has to follow, and a parenthesis for each open group
(`Stance.exists_completion`). So what stands before an error can be completed to an expression, and
what ends with the lexeme at the error cannot, whatever is put behind it (`parseExpr_earliest`).

For this the automaton is run on symbols, without positions (`Stance.after`). A source is parsed if
and only if it spells out symbols that lead from the first stance to the accepting one
(`exists_parseExpr_iff`), and an error is met at a token that is rejected or where the lexer fails
(`Stance.scan_eq_error`).
-/

namespace Calculator

/-! ## The automaton on symbols -/

namespace Stance

/-- The stance behind symbols, if the automaton goes on at each of them. -/
def after : Stance → List Symbol → Option Stance
  | stance, [] => some stance
  | stance, symbol :: later =>
      match stance.move false symbol with
      | .go next => next.after later
      | _ => none

/-- A symbol at which the automaton goes on is passed. -/
lemma after_of_go {stance next : Stance} {symbol : Symbol} (h : stance.move false symbol = .go next)
    (later : List Symbol) : stance.after (symbol :: later) = next.after later := by
  rw [after, h]

/-- Symbols in a row are passed one part after the other. -/
lemma after_append (stance : Stance) (first second : List Symbol) :
    stance.after (first ++ second) = (stance.after first).bind fun next => next.after second := by
  induction first generalizing stance with
  | nil => rfl
  | cons symbol first ih =>
      rw [List.cons_append, after, after]
      cases stance.move false symbol with
      | go next => exact ih next
      | accept => rfl
      | reject words => rfl

/-- Nothing leads on from a symbol that is rejected. -/
lemma after_of_reject {stance next : Stance} {before later : List Symbol} {symbol : Symbol}
    {words : String} (reached : stance.after before = some next)
    (rejected : next.move false symbol = .reject words) :
    stance.after (before ++ symbol :: later) = none := by
  rw [after_append, reached, Option.bind_some, after, rejected]

/-- What is accepted is the end of the input, behind a complete expression outside all groups. -/
lemma move_eq_accept {stance : Stance} {symbol : Symbol}
    (h : stance.move false symbol = .accept) :
    stance = .operator 0 ∧ symbol = .endOfInput := by
  cases stance with
  | operand opened =>
      cases symbol with
      | leftParen =>
          rw [move] at h
          split_ifs at h
      | _ => cases h
  | operator opened =>
      cases opened with
      | zero =>
          cases symbol with
          | endOfInput => exact ⟨rfl, rfl⟩
          | _ => cases h
      | succ opened => cases symbol <;> cases h

/-- A scan accepts if the symbols before the end of the input lead to the accepting stance, and
only then. -/
lemma scan_eq_ok_iff {source : String} {stance : Stance} {tokens : List Token} {stop : Nat}
    (notEnd : .endOfInput ∉ tokens.map Token.symbol) :
    stance.scan source false none (tokens ++ [⟨.endOfInput, stop⟩]) = some (.ok ()) ↔
      stance.after (tokens.map Token.symbol) = some (.operator 0) := by
  induction tokens generalizing stance with
  | nil =>
      rw [List.nil_append, List.map_nil, after, scan, Option.some_inj]
      cases hmove : stance.move false .endOfInput with
      | accept => simp [(move_eq_accept hmove).1]
      | go next =>
          rcases stance with opened | _ | opened <;> cases hmove
      | reject words =>
          rcases stance with opened | _ | opened <;> simp_all [move]
  | cons token tokens ih =>
      rw [List.map_cons, List.mem_cons, not_or] at notEnd
      rw [List.cons_append, List.map_cons, after, scan]
      cases hmove : stance.move false token.symbol with
      | go next => exact ih notEnd.2
      | accept => exact absurd (move_eq_accept hmove).2.symm notEnd.1
      | reject words => simp

/-- **Where a scan meets an error**: at a token that is rejected in the stance behind the symbols
before it, or behind all tokens, where the lexer fails. -/
lemma scan_eq_error {source : String} {fault : Option Fault} {stance : Stance}
    {tokens : List Token} {report : Diagnostic}
    (h : stance.scan source false fault tokens = some (.error report)) :
    (∃ before token later next words, tokens = before ++ token :: later ∧
        stance.after (before.map Token.symbol) = some next ∧
        next.move false token.symbol = .reject words ∧ report = token.objection source words) ∨
      ∃ next f, stance.after (tokens.map Token.symbol) = some next ∧ fault = some f ∧
        report = f.lexError source := by
  induction tokens generalizing stance with
  | nil =>
      right
      obtain ⟨f, rfl, hreport⟩ := Option.map_eq_some_iff.mp h
      exact ⟨stance, f, rfl, rfl, (Except.error.inj hreport).symm⟩
  | cons token later ih =>
      rw [scan] at h
      cases hmove : stance.move false token.symbol with
      | accept =>
          rw [hmove] at h
          cases h
      | reject words =>
          rw [hmove] at h
          cases h
          exact Or.inl ⟨[], token, later, stance, words, rfl, rfl, hmove, rfl⟩
      | go next =>
          rw [hmove] at h
          rcases ih h with ⟨before, bad, behind, last, words, rfl, reached, rejected, rfl⟩ |
            ⟨last, f, reached, rfl, rfl⟩
          · exact Or.inl ⟨token :: before, bad, behind, last, words, rfl,
              (after_of_go hmove _).trans reached, rejected, rfl⟩
          · exact Or.inr ⟨last, f, (after_of_go hmove _).trans reached, rfl, rfl⟩

/-! ## Completions -/

/-- The open groups are closed. -/
lemma after_replicate_rightParen (opened : Nat) :
    (operator opened).after (List.replicate opened .rightParen) = some (.operator 0) := by
  induction opened with
  | zero => rfl
  | succ opened ih => exact (after_of_go rfl _).trans ih

end Stance

/-- Parentheses spell out themselves. -/
lemma spellsOut_replicate_rightParen (n : Nat) :
    SpellsOut (List.replicate n ')') (List.replicate n .rightParen) := by
  induction n with
  | zero => exact spellsOut_of_isGap isGap_nil
  | succ n ih => exact Spells.rightParen.spellsOut.append ih (Or.inl rfl)

/-- **From every stance a text leads to acceptance.** It begins with a blank, so that it may stand
behind a number. -/
lemma Stance.exists_completion (stance : Stance) :
    ∃ text symbols, SpellsOut (' ' :: text) symbols ∧
      stance.after symbols = some (.operator 0) := by
  have blank : SpellsOut [' '] [] := spellsOut_of_isGap (by simp [IsGap])
  cases stance with
  | operator opened =>
      exact ⟨_, _, blank.append (spellsOut_replicate_rightParen opened) (Or.inl rfl),
        after_replicate_rightParen opened⟩
  | operand opened =>
      have one : SpellsOut ['1'] [.number (.ofDecimal false ⟨1, 0⟩)] :=
        (Spells.number (by simp [isNumeralChar]) rfl).spellsOut
      have closed : Apart ['1'] (List.replicate opened ')') := by
        right
        cases opened <;> rfl
      exact ⟨_, _, blank.append (one.append (spellsOut_replicate_rightParen opened) closed)
        (Or.inl rfl), after_replicate_rightParen opened⟩

/-! ## Accepted sources -/

/-- The end of the input is not spelled. -/
lemma SpellsOut.endOfInput_notMem {text : List Char} {symbols : List Symbol}
    (h : SpellsOut text symbols) : .endOfInput ∉ symbols := by
  obtain ⟨segments, gap, -, -, rfl⟩ := h
  intro hmem
  obtain ⟨segment, -, hsymbol⟩ := List.mem_map.mp hmem
  exact segment.spells.ne_endOfInput hsymbol

/-- A source is parsed if and only if it spells out symbols that lead to the accepting stance. -/
lemma exists_parseExpr_iff {source : String} :
    (∃ tree, parseExpr source false = .ok tree) ↔
      ∃ symbols, SpellsOut source.toList symbols ∧
        (Stance.operand 0).after symbols = some (.operator 0) := by
  have accepted : (∃ tree, parseExpr source false = .ok tree) ↔
      verdict source false = some (.ok ()) := by
    rw [verdict_eq]
    cases parseExpr source false with
    | error report => simp [Except.map]
    | ok tree => simp [Except.map]
  have leads : ∀ symbols, SpellsOut source.toList symbols →
      (verdict source false = some (.ok ()) ↔
        (Stance.operand 0).after symbols = some (.operator 0)) := by
    intro symbols hspells
    obtain ⟨tokens, htokens, rfl⟩ := hspells.exists_tokenize
    rw [verdict, htokens, Stance.scan_eq_ok_iff hspells.endOfInput_notMem]
  constructor
  · rintro ⟨tree, htree⟩
    obtain ⟨symbols, hspells, -⟩ := parseExpr_eq_ok_iff_spellsOut.mp htree
    exact ⟨symbols, hspells, (leads symbols hspells).mp (accepted.mp ⟨tree, htree⟩)⟩
  · rintro ⟨symbols, hspells, hafter⟩
    exact accepted.mpr ((leads symbols hspells).mpr hafter)

variable {front lexeme : List Char} {symbols : List Symbol}

/-- What the automaton has passed can be completed to an expression. -/
lemma exists_parseExpr_append {stance : Stance} (hfront : SpellsOut front symbols)
    (reached : (Stance.operand 0).after symbols = some stance) :
    ∃ more tree, parseExpr (String.ofList front ++ more) false = .ok tree := by
  obtain ⟨text, symbols', htext, hafter⟩ := stance.exists_completion
  refine ⟨String.ofList (' ' :: text), exists_parseExpr_iff.mpr ⟨symbols ++ symbols', ?_, ?_⟩⟩
  · rw [String.toList_append, String.toList_ofList, String.toList_ofList]
    exact hfront.append htext (Or.inr rfl)
  · rw [Stance.after_append, reached, Option.bind_some, hafter]

/-- A lexeme whose symbol is rejected cannot be mended by what is put behind it. -/
lemma not_parseExpr_of_reject {stance : Stance} {symbol : Symbol} {words : String}
    (hfront : SpellsOut front symbols) (apart : Apart front lexeme)
    (hspells : Spells lexeme symbol) (reached : (Stance.operand 0).after symbols = some stance)
    (rejected : stance.move false symbol = .reject words) {more : String}
    (hmore : more.toList.head?.any isNumeralChar = false) (tree : Expr) :
    parseExpr (String.ofList (front ++ lexeme) ++ more) false ≠ .ok tree := by
  intro accepted
  obtain ⟨all, hall, hafter⟩ := exists_parseExpr_iff.mp ⟨tree, accepted⟩
  rw [String.toList_append, String.toList_ofList] at hall
  have broken := hfront.append hspells.spellsOut apart
  obtain ⟨later, -, rfl⟩ := broken.exists_of_append (Or.inr hmore) hall
  rw [List.append_assoc, List.singleton_append, Stance.after_of_reject reached rejected] at hafter
  cases hafter

/-- Nor can a lexeme that stands for no symbol. -/
lemma not_parseExpr_of_refused {words : String} (hfront : SpellsOut front symbols)
    (apart : Apart front lexeme) (hlexeme : IsLexeme lexeme) (hrefused : Refused lexeme words)
    {more : String} (hmore : more.toList.head?.any isNumeralChar = false) (tree : Expr) :
    parseExpr (String.ofList (front ++ lexeme) ++ more) false ≠ .ok tree := by
  intro accepted
  obtain ⟨all, hall, -⟩ := exists_parseExpr_iff.mp ⟨tree, accepted⟩
  rw [String.toList_append, String.toList_ofList, List.append_assoc] at hall
  have apart' : Apart front (lexeme ++ more.toList) :=
    (Apart.append_right_iff hlexeme.ne_nil).mpr apart
  obtain ⟨later, hlater, -⟩ := hfront.exists_of_append apart' hall
  obtain ⟨tokens, htokens, -⟩ := hlater.exists_tokensAt 0
  obtain ⟨cause, hcause⟩ := hrefused.exists_cause
  have first : scan (lexeme ++ more.toList) = .lexeme 0 lexeme more.toList :=
    scan_of_isLexeme isGap_nil hlexeme (Or.inr hmore)
  rw [tokensAt_of_fault first hcause] at htokens
  cases (Prod.mk.inj htokens).2

/-! ## Errors -/

/-- What stands before a lexeme, and with it, and that no number runs from the one into the
other. -/
lemma LexemeAt.take_eq {text lexeme : List Char} {pos : Nat} (h : LexemeAt text pos lexeme) :
    text.take (pos + lexeme.length) = text.take pos ++ lexeme ∧ Apart (text.take pos) lexeme := by
  obtain ⟨before, behind, rfl, rfl, apart, -⟩ := h.stands
  rw [List.take_length_add_append, List.take_left, List.take_left]
  exact ⟨rfl, apart⟩

/-- **Errors are reported as early as possible.** What stands before an error can be completed to an
expression. If the error is not at the end, what ends with the lexeme there cannot, by anything that
does not make the lexeme longer. -/
theorem parseExpr_earliest {source : String} {report : Diagnostic}
    (h : parseExpr source false = .error report) :
    ∃ pos : Nat, report.place = some ⟨source, pos⟩ ∧ pos ≤ source.length ∧
      (∃ more tree, parseExpr (String.ofList (source.toList.take pos) ++ more) false = .ok tree) ∧
      (pos < source.length → ∃ lexeme, LexemeAt source.toList pos lexeme ∧
        ∀ more : String, more.toList.head?.any isNumeralChar = false → ∀ tree,
          parseExpr (String.ofList (source.toList.take (pos + lexeme.length)) ++ more) false ≠
            .ok tree) := by
  rw [← verdict_eq_error_iff, verdict] at h
  rcases Stance.scan_eq_error h with ⟨before, token, later, stance, words, htokens, reached,
    rejected, rfl⟩ | ⟨stance, fault, reached, hfault, rfl⟩
  · have member : token ∈ (tokenize source).1 := by simp [htokens]
    have hfront := spellsOut_take_of_token (Prod.ext htokens rfl)
    cases hend : token.isEnd with
    | true =>
        obtain ⟨-, rfl⟩ := end_of_mem_tokenize member hend
        exact ⟨source.length, rfl, le_rfl, exists_parseExpr_append hfront reached,
          fun inside => absurd inside (lt_irrefl _)⟩
    | false =>
        obtain ⟨lexeme, hlexeme, hspells⟩ := lexemeAt_of_mem_tokenize member hend
        obtain ⟨take, apart⟩ := hlexeme.take_eq
        have inside := hlexeme.lt_length
        rw [String.length_toList] at inside
        refine ⟨token.pos, rfl, inside.le, exists_parseExpr_append hfront reached, ?_⟩
        intro _
        refine ⟨lexeme, hlexeme, ?_⟩
        intro more hmore tree
        rw [take]
        exact not_parseExpr_of_reject hfront apart hspells reached rejected hmore tree
  · have hfront := spellsOut_take_of_fault (Prod.ext rfl hfault)
    obtain ⟨lexeme, hlexeme, hrefused⟩ := refused_of_tokenize hfault
    obtain ⟨take, apart⟩ := hlexeme.take_eq
    have inside := hlexeme.lt_length
    rw [String.length_toList] at inside
    refine ⟨fault.pos, rfl, inside.le, exists_parseExpr_append hfront reached, ?_⟩
    intro _
    refine ⟨lexeme, hlexeme, ?_⟩
    intro more hmore tree
    rw [take]
    exact not_parseExpr_of_refused hfront apart hlexeme.isLexeme hrefused hmore tree

/-- A product without a second operand can be completed before the parenthesis, and not behind
it. -/
theorem parseExpr_earliest_operand :
    parseExpr "(2*)" false =
        .error (Token.objection ⟨.rightParen, 3⟩ "(2*)" "unexpected token") ∧
      (∃ more tree, parseExpr ("(2*" ++ more) false = .ok tree) ∧
      ∀ more : String, more.toList.head?.any isNumeralChar = false → ∀ tree,
        parseExpr ("(2*)" ++ more) false ≠ .ok tree := by
  have tokens : (tokenize "(2*)").1 =
      [⟨.leftParen, 0⟩, ⟨.number (.ofDecimal false ⟨2, 0⟩), 1⟩, ⟨.operator .times, 2⟩,
        ⟨.rightParen, 3⟩, ⟨.endOfInput, 4⟩] := by
    have opening : scan ['(', '2', '*', ')'] = .lexeme 0 ['('] ['2', '*', ')'] := rfl
    have number : scan ['2', '*', ')'] = .lexeme 0 ['2'] ['*', ')'] := rfl
    have operator : scan ['*', ')'] = .lexeme 0 ['*'] [')'] := rfl
    have closing : scan [')'] = .lexeme 0 [')'] [] := rfl
    rw [tokenize_eq_tokensAt]
    show (tokensAt 0 ['(', '2', '*', ')']).1 = _
    rw [tokensAt_of_symbol opening rfl, tokensAt_of_symbol number rfl,
      tokensAt_of_symbol operator rfl, tokensAt_of_symbol closing rfl, tokensAt_of_finished rfl]
    rfl
  have refused : parseExpr "(2*)" false =
      .error (Token.objection ⟨.rightParen, 3⟩ "(2*)" "unexpected token") := by
    rw [← verdict_eq_error_iff, verdict, tokens]
    rfl
  obtain ⟨pos, place, -, completed, broken⟩ := parseExpr_earliest refused
  obtain rfl : pos = 3 := by
    have same := congrArg Place.pos (Option.some.inj place)
    exact (Int.ofNat_inj.mp same).symm
  obtain ⟨lexeme, hlexeme, never⟩ := broken (by decide)
  have length : lexeme.length = 1 := by
    have inside : 3 + lexeme.length ≤ 4 := hlexeme.length_le
    have positive := List.length_pos_iff.mpr hlexeme.isLexeme.ne_nil
    omega
  rw [length] at never
  exact ⟨refused, completed, never⟩

end Calculator
