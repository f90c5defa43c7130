import Calculator.Proofs.Calculation.Outcome
import Calculator.Proofs.Parser.RoundTrip
import Calculator.Proofs.Parser.Spelling

/-!
# Calculations are compositional

Two texts that are calculated, in parentheses and with an operator between them, are calculated to
the operation on the two expressions, and to the operator applied to the two values
(`calculate_compose`). The parentheses around the left one may be left out where the grammar groups
to the left anyway: before plus and minus always, and before times and divide if the left text has
no plus or minus outside all parentheses.

The conditions are on the characters of the texts. They carry over to the symbols that the texts
spell out, for a segment opens and closes what its symbol does (`Segment.openIn_written`): that is
`SpellsOut.nestsWithin` for the limit and `SpellsOut.enclosed` for what stands outside.
-/

namespace Calculator

/-! ## Parentheses of texts and of symbols -/

/-- No beginning of a text has more parentheses unclosed than the limit. -/
def NestsTextWithin (limit : Int) (text : List Char) : Prop :=
  ∀ beginning, beginning <+: text → openIn beginning ≤ limit

/-- No plus and no minus of a text stands outside all parentheses. -/
def SumsEnclosed (text : List Char) : Prop :=
  ∀ before c behind, text = before ++ c :: behind → c = '+' ∨ c = '-' → openIn before ≠ 0

/-- A gap opens nothing. -/
lemma openIn_of_isGap {gap : List Char} (h : IsGap gap) : openIn gap = 0 := by
  apply openIn_eq_zero
  · intro hopen
    exact absurd (h _ hopen) (by decide)
  · intro hclose
    exact absurd (h _ hclose) (by decide)

/-- A lexeme opens what the symbol opens that it spells. -/
lemma Spells.openIn_eq {lexeme : List Char} {symbol : Symbol} (h : Spells lexeme symbol) :
    openIn lexeme = unclosed [symbol] := by
  cases h with
  | number numeral value =>
      apply openIn_eq_zero
      · intro hopen
        exact absurd (numeral _ hopen) (by decide)
      · intro hclose
        exact absurd (numeral _ hclose) (by decide)
  | operator op => cases op <;> rfl
  | leftParen => rfl
  | rightParen => rfl

/-- An operator is spelled by its character. -/
lemma Spells.eq_of_operator {lexeme : List Char} {op : Operator}
    (h : Spells lexeme (.operator op)) : lexeme = [op.symbol] := by
  cases h
  rfl

/-- A segment opens what its symbol opens. -/
lemma Segment.openIn_written (segment : Segment) :
    openIn segment.written = unclosed [segment.symbol] := by
  rw [written, openIn_append, openIn_of_isGap segment.isGap, segment.spells.openIn_eq, Int.zero_add]

/-- Segments open what their symbols open. -/
lemma Segment.openIn_flatMap_written (segments : List Segment) :
    openIn (segments.flatMap written) = unclosed (segments.map symbol) := by
  induction segments with
  | nil => rfl
  | cons segment segments ih =>
      rw [List.flatMap_cons, openIn_append, segment.openIn_written, ih, List.map_cons,
        unclosed_cons _ (segments.map symbol)]

namespace SpellsOut

variable {text : List Char} {symbols : List Symbol}

/-- The symbols of a text nest no deeper than the text. -/
lemma nestsWithin (h : SpellsOut text symbols) {limit : Int} (nests : NestsTextWithin limit text) :
    NestsWithin limit symbols := by
  obtain ⟨segments, gap, hcut, -, rfl⟩ := h
  rintro beginning ⟨later, hlater⟩
  obtain ⟨first, second, rfl, rfl, -⟩ := List.map_eq_append_iff.mp hlater.symm
  rw [← Segment.openIn_flatMap_written]
  apply nests
  rw [hcut.text_eq, List.flatMap_append, List.append_assoc]
  exact List.prefix_append _ _

/-- Where the sums of a text are enclosed, so are those of its symbols. -/
lemma enclosed (h : SpellsOut text symbols) (sums : SumsEnclosed text) :
    ∀ before op behind, symbols = before ++ .operator op :: behind → op.level = .sum →
      unclosed before ≠ 0 := by
  intro before op behind hsymbols hlevel
  obtain ⟨segments, gap, hcut, -, rfl⟩ := h
  obtain ⟨first, others, rfl, rfl, hothers⟩ := List.map_eq_append_iff.mp hsymbols
  obtain ⟨segment, second, rfl, hsymbol, -⟩ := List.map_eq_cons_iff.mp hothers
  have character : segment.lexeme = [op.symbol] := (hsymbol ▸ segment.spells).eq_of_operator
  have sign : op.symbol = '+' ∨ op.symbol = '-' := by
    cases op with
    | plus => exact Or.inl rfl
    | minus => exact Or.inr rfl
    | times => cases hlevel
    | divide => cases hlevel
  have place : text = first.flatMap Segment.written ++ segment.gap ++
      op.symbol :: (second.flatMap Segment.written ++ gap) := by
    rw [hcut.text_eq, List.flatMap_append, List.flatMap_cons, Segment.written, character]
    simp
  have outside := sums _ _ _ place sign
  rwa [openIn_append, openIn_of_isGap segment.isGap, Int.add_zero,
    Segment.openIn_flatMap_written] at outside

/-- A text in parentheses spells out its symbols in parentheses. -/
lemma group (h : SpellsOut text symbols) :
    SpellsOut ('(' :: (text ++ [')'])) (.leftParen :: (symbols ++ [.rightParen])) :=
  Spells.leftParen.spellsOut.append (h.append Spells.rightParen.spellsOut (Or.inr rfl))
    (Or.inl rfl)

end SpellsOut

/-- Symbols in parentheses nest one level deeper than without. -/
lemma nestsWithin_group {limit : Int} {symbols : List Symbol} (positive : 0 ≤ limit)
    (closed : unclosed symbols = 0) (nests : NestsWithin limit symbols) :
    NestsWithin (limit + 1) (.leftParen :: (symbols ++ [.rightParen])) := by
  rw [nestsWithin_cons_iff, nestsWithin_append_iff, nestsWithin_cons_iff, nestsWithin_nil,
    unclosed_leftParen, unclosed_rightParen, closed, Int.add_sub_cancel]
  exact ⟨⟨by omega, by omega⟩, nests, ⟨by omega, by omega⟩, by omega⟩

/-! ## An operand in parentheses behind an operator -/

/-- A text that is a chain at the level of an operator, the operator, and a phrase in parentheses
are an expression. The phrase needs a level of nesting to spare. -/
lemma parseExpr_attach_group {op : Operator} {left right : List Char}
    {symbols symbols' : List Symbol} {x y : Expr} (hleft : SpellsOut left symbols)
    (hx : Derives (.chain op.level) symbols x) (nests : NestsWithin 200 symbols)
    (hright : SpellsOut right symbols') (hy : Derives .expression symbols' y)
    (nests' : NestsWithin 199 symbols') {source : String}
    (hsource : source.toList = left ++ op.symbol :: '(' :: (right ++ [')'])) :
    parseExpr source false = .ok (.node op x y) := by
  have sign : isNumeralChar op.symbol = false := by cases op <;> rfl
  have group : Derives .factor (.leftParen :: (symbols' ++ [.rightParen])) y := .group hy
  rw [parseExpr_eq_ok_iff_spellsOut]
  refine ⟨symbols ++ .operator op :: .leftParen :: (symbols' ++ [.rightParen]), ?_,
    (hx.attach op (group.operand _)).expression, ?_⟩
  · have behind := (Spells.operator op).spellsOut.append hright.group (Or.inr rfl)
    rw [hsource]
    exact hleft.append behind (Or.inr (by simp [sign]))
  · have inside := nestsWithin_group (by decide) hy.unclosed_eq_zero nests'
    rw [nestsWithin_append_iff, hx.unclosed_eq_zero, Int.sub_zero,
      Parser.nestsWithin_link (by decide)]
    exact ⟨nests, inside⟩

/-- What is calculated is what is parsed, with the value of the expression. -/
lemma outcome_calculate_eq_ok_iff {source : String} {allowTrailing : Bool} {answer : Answer} :
    (calculate source allowTrailing).outcome = .ok answer ↔
      parseExpr source allowTrailing = .ok answer.expr ∧ answer.value = answer.expr.meaning := by
  rw [outcome_calculate, parseExpr]
  obtain ⟨expr, value⟩ := answer
  cases (parseSource source allowTrailing).outcome with
  | error fault => simp [Except.mapError]
  | ok tree =>
      simp only [Except.mapError, Except.ok.injEq, Answer.mk.injEq]
      constructor
      · rintro ⟨rfl, rfl⟩
        exact ⟨rfl, rfl⟩
      · rintro ⟨rfl, rfl⟩
        exact ⟨rfl, rfl⟩

/-- **Calculations are compositional.** Of two texts that are calculated and nest within 199
parentheses, each put in parentheses and with an operator between them, the expression is the
operation on the two expressions and the value is the operator applied to the two values. The
parentheses around the left text may be left out before plus and minus, and before every operator if
the text has no plus or minus outside all parentheses; the text may then nest up to the limit. -/
theorem calculate_compose (op : Operator) {a b : String} {x y : Answer}
    (ha : (calculate a false).outcome = .ok x) (hb : (calculate b false).outcome = .ok y)
    (nests : NestsTextWithin 199 b.toList) :
    (NestsTextWithin 199 a.toList →
        (calculate ("(" ++ a ++ ")" ++ op.text ++ "(" ++ b ++ ")") false).outcome =
          .ok ⟨.node op x.expr y.expr, op.apply x.value y.value⟩) ∧
      (op = .plus ∨ op = .minus ∨ SumsEnclosed a.toList →
        (calculate (a ++ op.text ++ "(" ++ b ++ ")") false).outcome =
          .ok ⟨.node op x.expr y.expr, op.apply x.value y.value⟩) := by
  rw [outcome_calculate_eq_ok_iff, parseExpr_eq_ok_iff_spellsOut] at ha hb
  obtain ⟨⟨left, hleft, hx, limit⟩, valueX⟩ := ha
  obtain ⟨⟨right, hright, hy, -⟩, valueY⟩ := hb
  have value : op.apply x.value y.value = Expr.meaning (.node op x.expr y.expr) := by
    rw [valueX, valueY, Expr.meaning]
  constructor
  · intro nests'
    have group : Derives .factor (.leftParen :: (left ++ [.rightParen])) x.expr := .group hx
    have inside := nestsWithin_group (by decide) hx.unclosed_eq_zero (hleft.nestsWithin nests')
    rw [outcome_calculate_eq_ok_iff]
    refine ⟨parseExpr_attach_group hleft.group (.single (group.operand _)) inside hright hy
      (hright.nestsWithin nests) ?_, value⟩
    simp [Operator.text]
  · intro outside
    have chain : Derives (.chain op.level) left x.expr := by
      rcases outside with rfl | rfl | sums
      · exact hx
      · exact hx
      · cases op.level with
        | sum => exact hx
        | product => exact hx.term_of_enclosed (hleft.enclosed sums)
    rw [outcome_calculate_eq_ok_iff]
    refine ⟨parseExpr_attach_group hleft chain limit hright hy (hright.nestsWithin nests) ?_, value⟩
    simp [Operator.text]

/-- Two divisions in a row. -/
def quotientOf (x y z : Binary64) : Answer :=
  ⟨.node .divide (.node .divide (.leaf x) (.leaf y)) (.leaf z), (x.div y).div z⟩

/-- A quotient divided by two, with and without parentheses around the quotient. -/
theorem calculate_compose_quotient :
    (calculate ("(" ++ "8/4" ++ ")" ++ Operator.divide.text ++ "(" ++ "2" ++ ")") false).outcome =
        .ok (quotientOf (.ofDecimal false ⟨8, 0⟩) (.ofDecimal false ⟨4, 0⟩)
          (.ofDecimal false ⟨2, 0⟩)) ∧
      (calculate ("8/4" ++ Operator.divide.text ++ "(" ++ "2" ++ ")") false).outcome =
        .ok (quotientOf (.ofDecimal false ⟨8, 0⟩) (.ofDecimal false ⟨4, 0⟩)
          (.ofDecimal false ⟨2, 0⟩)) := by
  have digit : ∀ (c : Char) (d : Decimal), isNumeralChar c = true →
      Decimal.ofNumeral? [c] = some d → SpellsOut [c] [.number (.ofDecimal false d)] :=
    fun c d hc hd => (Spells.number (by simpa using hc) hd).spellsOut
  have hEight := digit '8' ⟨8, 0⟩ rfl rfl
  have hFour := digit '4' ⟨4, 0⟩ rfl rfl
  have hTwo := digit '2' ⟨2, 0⟩ rfl rfl
  -- the numbers are kept apart, lest they be computed
  generalize Binary64.ofDecimal false ⟨8, 0⟩ = eight at hEight ⊢
  generalize Binary64.ofDecimal false ⟨4, 0⟩ = four at hFour ⊢
  generalize Binary64.ofDecimal false ⟨2, 0⟩ = two at hTwo ⊢
  have divisor : (calculate "2" false).outcome = .ok ⟨.leaf two, two⟩ := by
    rw [outcome_calculate_eq_ok_iff, parseExpr_eq_ok_iff_spellsOut]
    exact ⟨⟨_, hTwo, .single (.single (.number two)), by simp [nestsWithin_cons_iff]⟩, rfl⟩
  have dividend : (calculate "8/4" false).outcome =
      .ok ⟨.node .divide (.leaf eight) (.leaf four), eight.div four⟩ := by
    have behind := (Spells.operator .divide).spellsOut.append hFour (Or.inl rfl)
    rw [outcome_calculate_eq_ok_iff, parseExpr_eq_ok_iff_spellsOut]
    exact ⟨⟨_, hEight.append behind (Or.inr rfl), .factors .divide (.number eight) (.number four),
      by simp [nestsWithin_cons_iff]⟩, rfl⟩
  have flat : ∀ text : List Char, '(' ∉ text → NestsTextWithin 199 text := by
    intro text hopen beginning hbeginning
    have none : beginning.count '(' = 0 := by
      rw [List.count_eq_zero]
      exact fun hmem => hopen (hbeginning.subset hmem)
    rw [openIn, none]
    omega
  have sums : SumsEnclosed "8/4".toList := by
    intro before c behind split sign
    have member : c ∈ "8/4".toList := by
      rw [split]
      simp
    rcases sign with rfl | rfl
    · exact absurd member (by decide)
    · exact absurd member (by decide)
  have composed := calculate_compose .divide dividend divisor (flat _ (by decide))
  exact ⟨composed.1 (flat _ (by decide)), composed.2 (Or.inr (Or.inr sums))⟩

end Calculator
