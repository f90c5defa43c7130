import Calculator.Proofs.Lexer.Cut
import Calculator.Proofs.Parser.Automaton
import Calculator.Proofs.Parser.Record

/-!
# Tokens behind an expression

* What the parser makes of a source that leads with an expression depends on the next token alone,
  and on whether tokens may follow (`parseExpr_of_leads`). A source that is parsed leads with the
  expression (`exists_leads_of_parseExpr`).
* A source that is cut off before the next token leads with the same expression (`Leads.take`), and
  so does one that goes on behind it with anything but an operator (`Leads.append`).
* Whether tokens may follow matters to the automaton in one stance only, so an error that does not
  come from there is the same either way (`Stance.scan_error_of_allowTrailing`).

`parseExpr_allowTrailing` compares the two ways to parse a source.
-/

namespace Calculator

/-! ## Sources that lead with an expression -/

/-- A source that is parsed leads with the expression. -/
lemma exists_leads_of_parseExpr {source : String} {allowTrailing : Bool} {tree : Expr}
    (h : parseExpr source allowTrailing = .ok tree) :
    ∃ taken next, Leads source taken tree next ∧ (next.isEnd || allowTrailing) = true := by
  have handed := handedOut_parseSource source allowTrailing
  rw [parseExpr] at h
  cases houtcome : (parseSource source allowTrailing).outcome with
  | error fault =>
      rw [houtcome] at h
      cases h
  | ok tree' =>
      rw [houtcome] at h handed
      cases h
      generalize (parseSource source allowTrailing).lexer.recorded.toList = recorded at handed
      cases handed with
      | parsed leads admitted => exact ⟨_, _, leads, admitted⟩

/-- What the parser makes of a source that leads with an expression. -/
lemma parseExpr_of_leads {source : String} {taken : List Token} {tree : Expr} {next : Token}
    (h : Leads source taken tree next) (allowTrailing : Bool) :
    parseExpr source allowTrailing =
      if next.isEnd || allowTrailing then .ok tree
      else .error (next.objection source Complaint.trailing.message) := by
  obtain ⟨later, fault, htokens⟩ := h.tokens
  rw [parseExpr_eq]
  cases hstart : Parser.start (.ofSource source) allowTrailing with
  | error stopped =>
      obtain ⟨fault', lexer⟩ := stopped
      have none := Parser.tokens_of_start_error hstart
      rw [← tokenize, htokens] at none
      simp at none
  | ok p =>
      obtain ⟨hahead, hnesting, htrailing⟩ := Parser.ahead_of_start hstart
      rw [← tokenize, htokens] at hahead
      have ends : Phrase.expression.EndsBefore ((next :: later).map Token.symbol) := by
        intro symbol hsymbol
        obtain rfl : next.symbol = symbol := by simpa using hsymbol
        exact h.stops
      obtain ⟨q, hread, hq⟩ := Parser.read_complete h.derives p taken (next :: later) fault rfl
        hahead (List.cons_ne_nil _ _) ends ((Parser.room_of_start hnesting).symm ▸ h.nests)
      obtain ⟨_, took⟩ := Parser.read_sound hread
      have hcurrent : q.current = next := Parser.current_of_ahead hq
      simp only [hread, hcurrent, took.allowTrailing, htrailing, Parser.objection_eq]
      rw [Parser.complain, hcurrent]

/-- A source that is parsed to its end leads with the expression before the end. -/
lemma Leads.of_parseExpr {source : String} {tree : Expr} (h : parseExpr source false = .ok tree) :
    ∃ taken, Leads source taken tree ⟨.endOfInput, source.length⟩ ∧
      tokenize source = (taken ++ [⟨.endOfInput, source.length⟩], none) := by
  obtain ⟨taken, htokens, hderives, hnests⟩ := derives_of_parseExpr h
  exact ⟨taken, ⟨⟨[], none, htokens⟩, hderives, hnests, rfl⟩, htokens⟩

namespace Leads

variable {source : String} {taken : List Token} {tree : Expr} {next : Token}

/-- A source that is cut off before the next token leads with the same expression. -/
lemma take (h : Leads source taken tree next) :
    Leads (String.ofList (source.toList.take next.pos)) taken tree ⟨.endOfInput, next.pos⟩ where
  tokens := by
    obtain ⟨later, fault, htokens⟩ := h.tokens
    rw [tokenize_eq_tokensAt] at htokens
    have short := (tokensAt_take htokens).2
    rw [Nat.sub_zero] at short
    exact ⟨[], none, by rw [tokenize_eq_tokensAt, String.toList_ofList, short]⟩
  derives := h.derives
  nests := h.nests
  stops := rfl

/-- A source that is parsed to its end goes on leading with the expression, whatever follows, if the
first token of that is no operator and no number runs across. -/
lemma append {front behind : String} {token : Token}
    (h : parseExpr front false = .ok tree) (hfirst : token ∈ (tokenize behind).1.head?)
    (hoperator : ∀ op, token.symbol ≠ .operator op) (apart : Apart front.toList behind.toList) :
    ∃ taken, Leads (front ++ behind) taken tree (token.shift front.length) := by
  obtain ⟨taken, leads, htokens⟩ := Leads.of_parseExpr h
  rw [tokenize_eq_tokensAt] at htokens hfirst
  have whole := tokensAt_append htokens apart
  rw [tokensAt_add, String.length_toList] at whole
  refine ⟨taken, ⟨?_, leads.derives, leads.nests, ?_⟩⟩
  · obtain ⟨later, hlater⟩ := List.head?_eq_some_iff.mp hfirst
    rw [hlater, List.map_cons] at whole
    exact ⟨_, _, by rw [tokenize_eq_tokensAt, String.toList_append, whole]⟩
  · show Phrase.expression.continues token.symbol = false
    cases hsymbol : token.symbol with
    | operator op => exact absurd hsymbol (hoperator op)
    | _ => rfl

end Leads

/-! ## Errors that trailing tokens have no part in -/

/-- Where the automaton does not accept although tokens may follow, it does the same where they may
not. -/
lemma Stance.move_of_allowTrailing {stance : Stance} {symbol : Symbol}
    (h : stance.move true symbol ≠ .accept) :
    stance.move false symbol = stance.move true symbol := by
  cases stance with
  | operand opened => cases symbol <;> rfl
  | operator opened =>
      cases opened with
      | succ opened => cases symbol <;> rfl
      | zero =>
          cases symbol with
          | operator op => rfl
          | _ => exact absurd rfl h

/-- **What the automaton reports where tokens may follow, it reports where they may not.** -/
lemma Stance.scan_error_of_allowTrailing {source : String} {fault : Option Fault} {stance : Stance}
    {tokens : List Token} {diagnostic : Diagnostic}
    (h : stance.scan source true fault tokens = some (.error diagnostic)) :
    stance.scan source false fault tokens = some (.error diagnostic) := by
  induction tokens generalizing stance with
  | nil => exact h
  | cons token later ih =>
      have same : stance.move true token.symbol ≠ .accept := by
        intro accepted
        rw [Stance.scan, accepted] at h
        cases h
      rw [Stance.scan, Stance.move_of_allowTrailing same]
      rw [Stance.scan] at h
      cases hmove : stance.move true token.symbol with
      | accept => exact absurd hmove same
      | reject words =>
          rw [hmove] at h
          exact h
      | go next =>
          rw [hmove] at h
          exact ih h

/-- **Whether tokens may follow matters behind the expression only.** What is accepted where they
may not is accepted where they may, and what is refused where they may is refused where they may
not, in the same words. A source that is accepted in one way only is an expression up to the token
that the complaint is about; and an expression may go on in any way, as long as the next lexeme is a
token and no operator. -/
theorem parseExpr_allowTrailing (source : String) :
    (∀ tree, parseExpr source false = .ok tree → parseExpr source true = .ok tree) ∧
      (∀ report, parseExpr source true = .error report → parseExpr source false = .error report) ∧
      (∀ tree report, parseExpr source true = .ok tree → parseExpr source false = .error report →
        ∃ token ∈ (tokenize source).1, token.isEnd = false ∧
          report = token.objection source "unexpected token after expression" ∧
            parseExpr (String.ofList (source.toList.take token.pos)) false = .ok tree) ∧
      ∀ front behind tree token, source = front ++ behind → parseExpr front false = .ok tree →
        token ∈ (tokenize behind).1.head? → (∀ op, token.symbol ≠ .operator op) →
          Apart front.toList behind.toList → parseExpr source true = .ok tree := by
  refine ⟨?_, ?_, ?_, ?_⟩
  · intro tree hstrict
    obtain ⟨taken, leads, -⟩ := Leads.of_parseExpr hstrict
    rw [parseExpr_of_leads leads, Bool.or_true, if_pos rfl]
  · intro report hpermissive
    rw [← verdict_eq_error_iff] at hpermissive ⊢
    exact Stance.scan_error_of_allowTrailing hpermissive
  · intro tree report hpermissive hstrict
    obtain ⟨taken, next, leads, -⟩ := exists_leads_of_parseExpr hpermissive
    obtain ⟨later, fault, htokens⟩ := leads.tokens
    rw [parseExpr_of_leads leads] at hstrict
    split at hstrict <;> cases hstrict
    rename_i notEnd
    refine ⟨next, by simp [htokens], by simpa using notEnd, rfl, ?_⟩
    rw [parseExpr_of_leads leads.take]
    rfl
  · rintro front behind tree token rfl hstrict hfirst hoperator apart
    obtain ⟨taken, leads⟩ := Leads.append hstrict hfirst hoperator apart
    rw [parseExpr_of_leads leads, Bool.or_true, if_pos rfl]

/-- A parenthesis that closes nothing ends the expression, and what stands behind the parenthesis is
not looked at. -/
theorem parseExpr_allowTrailing_parenthesis :
    parseExpr "2" true = .ok (.leaf (.ofDecimal false ⟨2, 0⟩)) ∧
      parseExpr "$" false = .error ⟨.lexical, "unknown token: '$'", some ⟨"$", 0⟩⟩ ∧
      (∃ token ∈ (tokenize "2 )$").1, token.isEnd = false ∧
        ⟨.syntactic, "unexpected token after expression: ')'", some ⟨"2 )$", 2⟩⟩ =
            token.objection "2 )$" "unexpected token after expression" ∧
          parseExpr (String.ofList ("2 )$".toList.take token.pos)) false =
            .ok (.leaf (.ofDecimal false ⟨2, 0⟩))) ∧
      parseExpr ("2" ++ " )$") true = .ok (.leaf (.ofDecimal false ⟨2, 0⟩)) := by
  have scanForeign : scan ['$'] = .lexeme 0 ['$'] [] := rfl
  have scanClosing : scan [' ', ')', '$'] = .lexeme 1 [')'] ['$'] := rfl
  have scanNumber : scan ['2'] = .lexeme 0 ['2'] [] := rfl
  have scanWhole : scan ['2', ' ', ')', '$'] = .lexeme 0 ['2'] [' ', ')', '$'] := rfl
  have foreign : ∀ pos, tokensAt pos ['$'] = ([], some ⟨.unknownCharacter '$', pos⟩) :=
    tokensAt_of_fault scanForeign rfl
  have closing : ∀ pos, tokensAt pos [' ', ')', '$'] =
      ([⟨.rightParen, pos + 1⟩], some ⟨.unknownCharacter '$', pos + 2⟩) := by
    intro pos
    rw [tokensAt_of_symbol scanClosing rfl, foreign]
    rfl
  have number : tokenize "2" =
      ([⟨.number (.ofDecimal false ⟨2, 0⟩), 0⟩, ⟨.endOfInput, 1⟩], none) := by
    refine (tokenize_eq_tokensAt _).trans ((tokensAt_of_symbol scanNumber rfl 0).trans ?_)
    rw [tokensAt_of_finished rfl]
    rfl
  have leftover : tokenize "2 )$" =
      ([⟨.number (.ofDecimal false ⟨2, 0⟩), 0⟩, ⟨.rightParen, 2⟩],
        some ⟨.unknownCharacter '$', 3⟩) := by
    refine (tokenize_eq_tokensAt _).trans ((tokensAt_of_symbol scanWhole rfl 0).trans ?_)
    rw [closing]
    rfl
  have first : tokenize " )$" = ([⟨.rightParen, 1⟩], some ⟨.unknownCharacter '$', 2⟩) :=
    (tokenize_eq_tokensAt _).trans (closing 0)
  have refused : tokenize "$" = ([], some ⟨.unknownCharacter '$', 0⟩) :=
    (tokenize_eq_tokensAt _).trans (foreign 0)
  have strict : parseExpr "2" false = .ok (.leaf (.ofDecimal false ⟨2, 0⟩)) :=
    @parseExpr_of_derives _ _ [⟨.number _, 0⟩] number (.single (.single (.number _)))
      (by simp [nestsWithin_cons_iff])
  have permissive : parseExpr ("2" ++ " )$") true = .ok (.leaf (.ofDecimal false ⟨2, 0⟩)) := by
    refine (parseExpr_allowTrailing _).2.2.2 "2" " )$" _ ⟨.rightParen, 1⟩ rfl strict ?_ ?_ ?_
    · rw [first]
      rfl
    · exact fun op => Symbol.noConfusion
    · exact Or.inr rfl
  refine ⟨?_, ?_, ?_, permissive⟩
  · exact (parseExpr_allowTrailing _).1 _ strict
  · apply (parseExpr_allowTrailing _).2.1
    rw [← verdict_eq_error_iff, verdict, refused]
    rfl
  · apply (parseExpr_allowTrailing "2 )$").2.2.1 _ _ permissive
    rw [← verdict_eq_error_iff, verdict, leftover]
    rfl

end Calculator
