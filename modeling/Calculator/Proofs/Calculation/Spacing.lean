import Calculator.Proofs.Calculation.Outcome
import Calculator.Proofs.Parser.Alike

/-!
# Blanks do not matter

Two sources with the same lexemes are calculated alike, however the gaps between the lexemes differ
(`calculate_spacing`). An error is reported where it was, counted in lexemes: at the lexeme with the
same index, or at the end of both sources. The places that correspond in this way are `Corresponds`.
-/

namespace Calculator

/-- Positions of two divided sources correspond if lexemes with one index begin there, or if the
sources end there. -/
inductive Corresponds (stretches stretches' : List Stretch) (length length' : Nat) :
    Nat → Nat → Prop
  /-- Two lexemes with one index. -/
  | lexeme {pos pos' : Nat} (i : Nat) (start : (Stretch.starts 0 stretches)[i]? = some pos)
      (start' : (Stretch.starts 0 stretches')[i]? = some pos') :
      Corresponds stretches stretches' length length' pos pos'
  /-- The two ends. -/
  | ending : Corresponds stretches stretches' length length' length length'

/-- Two outcomes for two sources are equal but for the place of an error, and the places
correspond. -/
inductive OutcomesAlike (same : Nat → Nat → Prop) (source source' : String) :
    Except Diagnostic Answer → Except Diagnostic Answer → Prop
  /-- One answer for both. -/
  | ok (answer : Answer) : OutcomesAlike same source source' (.ok answer) (.ok answer)
  /-- Errors of one kind with one message. -/
  | error (kind : Diagnostic.Kind) (message : String) {pos pos' : Nat} (h : same pos pos') :
      OutcomesAlike same source source' (.error ⟨kind, message, some ⟨source, pos⟩⟩)
        (.error ⟨kind, message, some ⟨source', pos'⟩⟩)

/-- As many lexemes begin in two texts with the same lexemes, and those with one index
correspond. -/
lemma forall₂_starts {stretches stretches' : List Stretch}
    (lexemes : stretches.map Stretch.lexeme = stretches'.map Stretch.lexeme)
    (length length' : Nat) :
    List.Forall₂ (Corresponds stretches stretches' length length') (Stretch.starts 0 stretches)
      (Stretch.starts 0 stretches') := by
  have count : stretches.length = stretches'.length := by
    simpa using congrArg List.length lexemes
  rw [List.forall₂_iff_get]
  refine ⟨by rw [Stretch.length_starts, Stretch.length_starts, count], ?_⟩
  intro i hi hi'
  exact .lexeme i (List.getElem?_eq_getElem hi) (List.getElem?_eq_getElem hi')

/-- A fault that is alike is reported alike. -/
lemma Fault.Alike.outcomes {same : Nat → Nat → Prop} {fault fault' : Fault}
    (h : Fault.Alike same fault fault') (source source' : String) :
    OutcomesAlike same source source' (.error (fault.diagnostic source))
      (.error (fault'.diagnostic source')) := by
  rw [Fault.diagnostic, Fault.diagnostic, ← h.cause]
  exact .error _ _ h.pos

/-- **Blanks do not matter.** Every text is divided into lexemes and gaps in exactly one way. Two
sources with the same lexemes come to the same expression and value, or to errors of one kind with
one message, at lexemes with one index or at the ends; and they are handed out the same symbols. -/
theorem calculate_spacing :
    (∀ text : List Char, ∃! division : List Stretch × List Char,
      Divided text division.1 division.2) ∧
    ∀ (source source' : String) (stretches stretches' : List Stretch) (last last' : List Char)
      (allowTrailing : Bool),
      Divided source.toList stretches last → Divided source'.toList stretches' last' →
      stretches.map Stretch.lexeme = stretches'.map Stretch.lexeme →
      OutcomesAlike (Corresponds stretches stretches' source.length source'.length) source source'
          (calculate source allowTrailing).outcome (calculate source' allowTrailing).outcome ∧
        (calculate source allowTrailing).tokens.map Token.symbol =
          (calculate source' allowTrailing).tokens.map Token.symbol := by
  refine ⟨existsUnique_divided, ?_⟩
  intro source source' stretches stretches' last last' allowTrailing h h' lexemes
  have streams : StreamsAlike (Corresponds stretches stretches' source.length source'.length)
      (tokenize source) (tokenize source') := by
    rw [tokenize_eq_tokensAt, tokenize_eq_tokensAt]
    apply h.streamsAlike h' lexemes (forall₂_starts lexemes _ _)
    rw [Nat.zero_add, Nat.zero_add, String.length_toList, String.length_toList]
    exact .ending
  have parsed := parseSource_alike streams allowTrailing
  have record : ∀ source : String, (calculate source allowTrailing).tokens =
      (parseSource source allowTrailing).lexer.recorded.toList := fun _ => rfl
  rw [outcome_calculate, outcome_calculate, record, record]
  generalize parseSource source allowTrailing = first at parsed ⊢
  generalize parseSource source' allowTrailing = second at parsed ⊢
  cases parsed with
  | tree recorded => exact ⟨.ok _, map_symbol_of_forall₂ recorded⟩
  | fault alike recorded =>
      exact ⟨alike.outcomes source source', map_symbol_of_forall₂ recorded⟩

/-- A missing operand, with blanks between the lexemes and without. -/
theorem calculate_spacing_misplaced :
    ∃ stretches stretches', Divided "2+*3".toList stretches [] ∧
      Divided " 2\n+ *3".toList stretches' [] ∧
      Stretch.starts 0 stretches = [0, 1, 2, 3] ∧ Stretch.starts 0 stretches' = [1, 3, 5, 6] ∧
      OutcomesAlike (Corresponds stretches stretches' 4 7) "2+*3" " 2\n+ *3"
        (calculate "2+*3" false).outcome (calculate " 2\n+ *3" false).outcome ∧
      (calculate "2+*3" false).tokens.map Token.symbol =
        (calculate " 2\n+ *3" false).tokens.map Token.symbol := by
  have digit : ∀ c : Char, isNumeralChar c = true → IsLexeme [c] := fun c hc =>
    .run (List.cons_ne_nil c []) (by simpa using hc)
  have two := digit '2' rfl
  have three := digit '3' rfl
  have plus : IsLexeme ['+'] := .single rfl rfl
  have times : IsLexeme ['*'] := .single rfl rfl
  have blank : IsGap [' '] := by simp [IsGap]
  have newline : IsGap ['\n'] := by simp [IsGap]
  have last : Divided "3".toList [⟨[], ['3'], isGap_nil, three⟩] [] :=
    .cons ⟨[], ['3'], isGap_nil, three⟩ (.nil_right _) (.nil isGap_nil)
  have dense : Divided "2+*3".toList
      [⟨[], ['2'], isGap_nil, two⟩, ⟨[], ['+'], isGap_nil, plus⟩,
        ⟨[], ['*'], isGap_nil, times⟩, ⟨[], ['3'], isGap_nil, three⟩] [] :=
    .cons ⟨[], ['2'], isGap_nil, two⟩ (Or.inr rfl)
      (.cons ⟨[], ['+'], isGap_nil, plus⟩ (Or.inl rfl)
        (.cons ⟨[], ['*'], isGap_nil, times⟩ (Or.inl rfl) last))
  have wide : Divided " 2\n+ *3".toList
      [⟨[' '], ['2'], blank, two⟩, ⟨['\n'], ['+'], newline, plus⟩,
        ⟨[' '], ['*'], blank, times⟩, ⟨[], ['3'], isGap_nil, three⟩] [] :=
    .cons ⟨[' '], ['2'], blank, two⟩ (Or.inr rfl)
      (.cons ⟨['\n'], ['+'], newline, plus⟩ (Or.inl rfl)
        (.cons ⟨[' '], ['*'], blank, times⟩ (Or.inl rfl) last))
  exact ⟨_, _, dense, wide, rfl, rfl, calculate_spacing.2 _ _ _ _ _ _ false dense wide rfl⟩

end Calculator
