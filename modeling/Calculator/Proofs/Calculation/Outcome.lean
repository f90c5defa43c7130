import Calculator.Proofs.Diagnostic
import Calculator.Proofs.Lexer.Partition
import Calculator.Proofs.Parser.Trailing

/-!
# Outcomes of calculations

* `calculate_tokens`: the tokens that a calculation keeps are the first of its source, and where
  they end is settled by its outcome. Nothing is read beyond the token that decides.
* `calculate_wellFormed`: the outcome is an expression with its value, or a diagnostic that fits the
  source (`Reported`). What the lexer has accepted before an error is blank or of the alphabet, so
  every character there takes one column, and the pointer below stands under the lexeme that the
  message is about.

Both come from the three ways in which a source is done with (`HandedOut`).
-/

namespace Calculator

/-- What a calculation comes to: an evaluation adds the value to the expression, and no failure. -/
lemma outcome_calculate (source : String) (allowTrailing : Bool) :
    (calculate source allowTrailing).outcome =
      match (parseSource source allowTrailing).outcome with
      | .error fault => .error (fault.diagnostic source)
      | .ok tree => .ok ⟨tree, tree.meaning⟩ := by
  unfold calculate
  cases houtcome : (parseSource source allowTrailing).outcome with
  | error fault => simp only [houtcome]
  | ok tree => simp only [houtcome, Expr.evaluate_eq_ok]

/-- Where the lexer fails at once, that is what the calculation comes to. -/
lemma outcome_calculate_of_fault {source : String} {fault : Fault}
    (h : tokenize source = ([], some fault)) (allowTrailing : Bool) :
    (calculate source allowTrailing).outcome = .error (fault.diagnostic source) := by
  have handed := handedOut_parseSource source allowTrailing
  rw [outcome_calculate]
  generalize (parseSource source allowTrailing).outcome = outcome at handed ⊢
  generalize (parseSource source allowTrailing).lexer.recorded.toList = recorded at handed
  cases handed with
  | parsed leads =>
      obtain ⟨later, other, ahead⟩ := leads.tokens
      simp [h] at ahead
  | misplaced complaint ahead => simp [h] at ahead
  | exhausted ahead =>
      rw [h] at ahead
      cases ahead
      rfl

/-! ## How far a calculation looks -/

/-- A source whose stream fails has no end of the input among its tokens. -/
lemma filter_isEnd_of_tokenize {source : String} {fault : Fault}
    (h : (tokenize source).2 = some fault) : (tokenize source).1.filter Token.isEnd = [] := by
  rw [List.filter_eq_nil_iff]
  intro token htoken isEnd
  rw [(end_of_mem_tokenize htoken isEnd).1] at h
  cases h

/-- Before the end of the input there is no other, and nothing behind it. -/
lemma tokenize_of_isEnd {source : String} {before later : List Token} {token : Token}
    {fault : Option Fault} (h : tokenize source = (before ++ token :: later, fault))
    (isEnd : token.isEnd = true) :
    later = [] ∧ token = ⟨.endOfInput, source.length⟩ ∧ before.filter Token.isEnd = [] := by
  obtain ⟨tokens, notEnd, hend | ⟨fault', hfault⟩⟩ := tokensAt_cases 0 source.toList
  · rw [tokenize_eq_tokensAt, hend, Nat.zero_add, String.length_toList] at h
    have whole := (Prod.mk.inj h).1
    rcases List.eq_nil_or_concat later with rfl | ⟨front, last, rfl⟩
    · obtain ⟨rfl, hlast⟩ := List.append_inj' whole rfl
      refine ⟨rfl, (List.cons.inj hlast).1.symm, ?_⟩
      rw [List.filter_eq_nil_iff]
      intro t ht
      simp [notEnd t ht]
    · -- then the token would stand before the last one
      have inside : tokens = before ++ token :: front := by
        rw [List.concat_eq_append, ← List.cons_append, ← List.append_assoc] at whole
        exact List.append_inj_left' whole rfl
      have kept := notEnd token (by simp [inside])
      rw [isEnd] at kept
      cases kept
  · rw [tokenize_eq_tokensAt, hfault] at h
    have kept := notEnd token (by simp [(Prod.mk.inj h).1])
    rw [isEnd] at kept
    cases kept

/-- **How far a calculation looks.** The tokens that it keeps are the first of the source: with an
expression, up to the next token behind it, which is the end of the input unless tokens may follow;
with a complaint of the grammar, up to the token that it is about; and all tokens where the lexer
fails. -/
theorem calculate_tokens (source : String) (allowTrailing : Bool) :
    (calculate source allowTrailing).tokens <+: (tokenize source).1 ∧
      match (calculate source allowTrailing).outcome with
      | .ok answer =>
          ∃ taken next later, (calculate source allowTrailing).tokens = taken ++ [next] ∧
            (tokenize source).1 = taken ++ next :: later ∧
            Derives .expression (taken.map Token.symbol) answer.expr ∧
            Phrase.expression.continues next.symbol = false ∧
            (allowTrailing = false → later = [] ∧ next = ⟨.endOfInput, source.length⟩ ∧
              taken.filter Token.isEnd = [])
      | .error report =>
          match report.kind with
          | .syntactic =>
              ∃ before token later words,
                (calculate source allowTrailing).tokens = before ++ [token] ∧
                (tokenize source).1 = before ++ token :: later ∧
                report = token.objection source words
          | .lexical =>
              (calculate source allowTrailing).tokens = (tokenize source).1 ∧
                (tokenize source).1.filter Token.isEnd = [] ∧
                ∃ fault, (tokenize source).2 = some fault ∧ report = fault.diagnostic source
          | _ => False := by
  have record : (calculate source allowTrailing).tokens =
      (parseSource source allowTrailing).lexer.recorded.toList := rfl
  have handed := handedOut_parseSource source allowTrailing
  rw [outcome_calculate, record]
  generalize (parseSource source allowTrailing).outcome = outcome at handed
  generalize (parseSource source allowTrailing).lexer.recorded.toList = recorded at handed
  cases handed with
  | @parsed taken tree next leads admitted =>
      obtain ⟨later, fault, htokens⟩ := leads.tokens
      rw [htokens]
      refine ⟨⟨later, by simp⟩, taken, next, later, rfl, rfl, leads.derives, leads.stops, ?_⟩
      rintro rfl
      rw [Bool.or_false] at admitted
      exact tokenize_of_isEnd htokens admitted
  | @misplaced before later token fault complaint htokens =>
      rw [htokens]
      refine ⟨⟨later, by simp⟩, before, token, later, complaint.message, rfl, rfl, ?_⟩
      exact (Parser.objection_eq token source complaint).symm
  | @exhausted recorded fault htokens =>
      have lexical : fault.cause.kind = .lexical := by
        rw [tokenize_eq_tokensAt] at htokens
        exact kind_of_tokensAt (congrArg Prod.snd htokens)
      have noEnd := filter_isEnd_of_tokenize (congrArg Prod.snd htokens)
      rw [htokens] at noEnd ⊢
      refine ⟨List.prefix_rfl, ?_⟩
      simp only [Fault.diagnostic, lexical]
      exact ⟨trivial, noEnd, fault, rfl, by rw [lexical]⟩

/-! ## What is reported -/

/-- What a diagnostic says about a position of a source, and what the source has there. -/
structure Reported (source : String) (pos : Nat) (report : Diagnostic) : Prop where
  /-- It is about characters or about symbols. -/
  kind : report.kind = .lexical ∨ report.kind = .syntactic
  /-- It is about this position. -/
  place : report.place = some ⟨source, pos⟩
  /-- The position is inside the source or at its end. -/
  inside : pos ≤ source.length
  /-- It is at the end exactly if the message says so in its last words. -/
  atEnd : pos = source.length ↔ "end of input".toList <:+ report.message.toList
  /-- Elsewhere the character at the position is not blank. -/
  notBlank : pos < source.length → ∃ c, source.toList[pos]? = some c ∧ Text.isBlank c = false
  /-- The characters before it are blank or of the alphabet. -/
  before : ∀ c ∈ source.toList.take pos, Text.isBlank c = true ∨ c ∈ alphabet
  /-- The pointer marks it. -/
  marked : Marks source pos (Place.pointer ⟨source, pos⟩).toList
  /-- Unless it is the end, it is the beginning of the lexeme that the message is about: one that is
  refused, or one that spells the symbol in the message. -/
  offending : pos < source.length → ∃ lexeme, LexemeAt source.toList pos lexeme ∧
    ((report.kind = .lexical ∧ Refused lexeme report.message) ∨
      (report.kind = .syntactic ∧ ∃ (complaint : Complaint) (symbol : Symbol),
        Spells lexeme symbol ∧ report.message = complaint.message ++ ": " ++ symbol.shown))

/-- The failure of the lexer is reported at the lexeme that is refused. -/
lemma reported_of_fault {source : String} {fault : Fault} (h : (tokenize source).2 = some fault) :
    Reported source fault.pos (fault.diagnostic source) := by
  obtain ⟨lexeme, hlexeme, hrefused⟩ := refused_of_tokenize h
  have inside := hlexeme.lt_length
  rw [String.length_toList] at inside
  have lexical : fault.cause.kind = .lexical := by
    rw [tokenize_eq_tokensAt] at h
    exact kind_of_tokensAt h
  exact {
    kind := Or.inl lexical
    place := rfl
    inside := inside.le
    atEnd := by
      constructor
      · intro atEnd
        omega
      · intro words
        obtain ⟨complaint, hcause⟩ := endOfInput_isSuffix_message_iff.mp words
        rw [hcause] at lexical
        cases lexical
    notBlank := fun _ => hlexeme.getElem?_eq
    before := by
      apply mem_alphabet_of_tokenize
      intro fault' hfault'
      rw [h] at hfault'
      cases hfault'
      exact le_rfl
    marked := Place.marks_pointer source fault.pos
    offending := fun _ => ⟨lexeme, hlexeme, Or.inl ⟨lexical, hrefused⟩⟩ }

/-- A complaint about the end of the input is reported there. -/
lemma reported_at_end {source : String} (complaint : Complaint)
    (h : ⟨.endOfInput, source.length⟩ ∈ (tokenize source).1) :
    Reported source source.length
      (Fault.diagnostic ⟨.misplaced complaint .endOfInput, source.length⟩ source) where
  kind := Or.inr rfl
  place := rfl
  inside := le_rfl
  atEnd := iff_of_true rfl (endOfInput_isSuffix_message_iff.mpr ⟨complaint, rfl⟩)
  notBlank := by
    intro inside
    exact absurd inside (lt_irrefl _)
  before := by
    apply mem_alphabet_of_tokenize
    intro fault hfault
    exact (pos_lt_of_mem_tokenize h hfault).le
  marked := Place.marks_pointer source source.length
  offending := by
    intro inside
    exact absurd inside (lt_irrefl _)

/-- A complaint about another token is reported at the lexeme of the token. -/
lemma reported_at_lexeme {source : String} {token : Token} (complaint : Complaint)
    (h : token ∈ (tokenize source).1) (notEnd : token.isEnd = false) :
    Reported source token.pos
      (Fault.diagnostic ⟨.misplaced complaint token.symbol, token.pos⟩ source) := by
  obtain ⟨lexeme, hlexeme, hspells⟩ := lexemeAt_of_mem_tokenize h notEnd
  have inside := hlexeme.lt_length
  rw [String.length_toList] at inside
  have words := Cause.message_misplaced complaint hspells.ne_endOfInput
  exact {
    kind := Or.inr rfl
    place := rfl
    inside := inside.le
    atEnd := by
      constructor
      · intro atEnd
        omega
      · intro ends
        obtain ⟨complaint', hcause⟩ := endOfInput_isSuffix_message_iff.mp ends
        exact absurd (Cause.misplaced.inj hcause).2 hspells.ne_endOfInput
    notBlank := fun _ => hlexeme.getElem?_eq
    before := by
      apply mem_alphabet_of_tokenize
      intro fault hfault
      exact (pos_lt_of_mem_tokenize h hfault).le
    marked := Place.marks_pointer source token.pos
    offending := fun _ =>
      ⟨lexeme, hlexeme, Or.inr ⟨rfl, complaint, token.symbol, hspells, words⟩⟩ }

/-- A complaint about a token of a source is reported at the token. -/
lemma reported_of_mem_tokenize {source : String} {token : Token} (complaint : Complaint)
    (h : token ∈ (tokenize source).1) :
    Reported source token.pos
      (Fault.diagnostic ⟨.misplaced complaint token.symbol, token.pos⟩ source) := by
  cases hend : token.isEnd with
  | true =>
      obtain ⟨-, rfl⟩ := end_of_mem_tokenize h hend
      exact reported_at_end complaint h
  | false => exact reported_at_lexeme complaint h hend

/-- **Every outcome is well formed**: an expression that was read, with the value that it evaluates
to, or a diagnostic about a position of the source. -/
theorem calculate_wellFormed (source : String) (allowTrailing : Bool) :
    match (calculate source allowTrailing).outcome with
    | .ok answer =>
        parseExpr source allowTrailing = .ok answer.expr ∧
          answer.expr.evaluate Expr.rules = .ok answer.value
    | .error report =>
        parseExpr source allowTrailing = .error report ∧ ∃ pos, Reported source pos report := by
  have handed := handedOut_parseSource source allowTrailing
  rw [outcome_calculate, parseExpr]
  generalize (parseSource source allowTrailing).outcome = outcome at handed
  generalize (parseSource source allowTrailing).lexer.recorded.toList = recorded at handed
  cases handed with
  | @parsed taken tree next leads admitted => exact ⟨rfl, Expr.evaluate_eq_ok tree⟩
  | @misplaced before later token fault complaint htokens =>
      exact ⟨rfl, token.pos, reported_of_mem_tokenize complaint (by simp [htokens])⟩
  | @exhausted recorded fault htokens =>
      exact ⟨rfl, fault.pos, reported_of_fault (congrArg Prod.snd htokens)⟩

end Calculator
