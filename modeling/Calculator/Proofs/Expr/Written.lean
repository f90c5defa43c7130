import Calculator.Proofs.Decimal.ReadBack
import Calculator.Proofs.Expr.Walk
import Calculator.Proofs.Lexer.Stream
import Calculator.Proofs.Parser.Grammar

/-!
# The written form of an expression

What an expression is written as, at three levels: characters (`Expr.written`), tokens
(`Expr.tokensFrom`) and symbols (`Expr.symbols`).

* **The lexer takes the written form apart again** (`Expr.tokensAt_written`), whatever stands behind
  it, so long as that does not go on with a digit or a point. This asks of the leaves that they are
  written in fixed notation.
* **The symbols are a factor that stands for the expression** (`Expr.derives_symbols`). They nest one
  level less deep than the tree (`Expr.nestsWithin_symbols`), for the leaves need no parentheses.
-/

namespace Calculator

namespace Tree

variable {Op Foreign : Type}

/-- The numbers at the leaves, from left to right. -/
def leaves : Tree Op Foreign → List Binary64
  | leaf value => [value]
  | node _ left right => left.leaves ++ right.leaves
  | foreign _ => []

/-- The leaves of an operation are those of its operands. -/
lemma forall_leaves_node {P : Binary64 → Prop} {op : Op} {left right : Tree Op Foreign} :
    (∀ value ∈ (node op left right).leaves, P value) ↔
      (∀ value ∈ left.leaves, P value) ∧ ∀ value ∈ right.leaves, P value := by
  simp only [leaves, List.mem_append]
  constructor
  · exact fun h => ⟨fun value hvalue => h value (Or.inl hvalue), fun value hvalue =>
      h value (Or.inr hvalue)⟩
  · rintro ⟨hleft, hright⟩ value (hvalue | hvalue)
    · exact hleft value hvalue
    · exact hright value hvalue

end Tree

namespace Expr

/-! ## Characters -/

/-- The characters that an expression is written with. -/
def written (expr : Expr) : List Char :=
  expr.parenthesized.toList

/-- A leaf is written as its number. -/
lemma written_leaf (value : Binary64) : written (.leaf value) = value.text.toList := rfl

/-- An operation is written in parentheses, with a space on either side of the operator. -/
lemma written_node (op : Operator) (left right : Expr) :
    written (.node op left right) =
      '(' :: (written left ++ ' ' :: op.symbol :: ' ' :: (written right ++ [')'])) := by
  simp [written, parenthesized, Operator.text]

/-! ## Tokens -/

/-- The tokens that an expression is written with, from a position on. -/
def tokensFrom : (pos : Nat) → (expr : Expr) → List Token
  | pos, .leaf value => [⟨.number value, pos⟩]
  | pos, .node op left right =>
      let behindLeft := pos + 1 + (written left).length
      let behindRight := behindLeft + 3 + (written right).length
      ⟨.leftParen, pos⟩ :: tokensFrom (pos + 1) left ++ ⟨.operator op, behindLeft + 1⟩ ::
        tokensFrom (behindLeft + 3) right ++ [⟨.rightParen, behindRight⟩]
  | _, .foreign item => item.elim

/-- An operator is a token at its place. -/
lemma tokensAt_operator (op : Operator) (pos : Nat) (text : List Char) :
    tokensAt pos (op.symbol :: text) =
      Token.followedBy ⟨.operator op, pos⟩ (tokensAt (pos + 1) text) := by
  cases op <;> exact tokensAt_symbol (by decide) (by decide) (by decide) pos text

/-- A number in fixed notation is a token at its place. -/
lemma tokensAt_leaf {value : Binary64} (hfixed : value.HasFixedNotation) {rest : List Char}
    (hrest : rest.takeWhile isNumeralChar = []) (pos : Nat) :
    tokensAt pos (value.text.toList ++ rest) =
      Token.followedBy ⟨.number value, pos⟩ (tokensAt (pos + value.text.toList.length) rest) := by
  obtain ⟨d, hnumeral, hvalue⟩ := Binary64.ofNumeral?_text hfixed
  have hchars : ∀ c ∈ value.text.toList, isNumeralChar c = true := by
    intro c hc
    simpa [isNumeralChar] using hfixed.1 c hc
  rw [tokensAt_numeral hnumeral hchars hrest, hvalue]

/-- **The lexer takes the written form apart again**, in front of anything that does not go on with a
digit or a point. -/
theorem tokensAt_written {expr : Expr} (hleaves : ∀ value ∈ expr.leaves, value.HasFixedNotation)
    {rest : List Char} (hrest : rest.takeWhile isNumeralChar = []) (pos : Nat) :
    tokensAt pos (written expr ++ rest) =
      (tokensFrom pos expr ++ (tokensAt (pos + (written expr).length) rest).1,
        (tokensAt (pos + (written expr).length) rest).2) := by
  induction expr generalizing pos rest with
  | leaf value =>
      rw [written_leaf, tokensAt_leaf (hleaves value (by simp [Tree.leaves])) hrest]
      rfl
  | foreign item => exact item.elim
  | node op left right ihl ihr =>
      obtain ⟨hleft, hright⟩ := Tree.forall_leaves_node.mp hleaves
      have shape : written (.node op left right) ++ rest =
          '(' :: (written left ++ ' ' :: op.symbol :: ' ' :: (written right ++ ')' :: rest)) := by
        simp [written_node]
      have length : pos + (written (.node op left right)).length =
          pos + 1 + (written left).length + 3 + (written right).length + 1 := by
        simp only [written_node, List.length_cons, List.length_append, List.length_nil]
        omega
      have hopen : Symbol.ofChar? '(' = some .leftParen := rfl
      have hclose : Symbol.ofChar? ')' = some .rightParen := rfl
      rw [shape, length, tokensAt_symbol (by decide) (by decide) hopen, ihl hleft rfl,
        tokensAt_blank (by decide), tokensAt_operator, tokensAt_blank (by decide), ihr hright rfl,
        tokensAt_symbol (by decide) (by decide) hclose]
      simp [Token.followedBy, tokensFrom]

/-- The tokens of a source that an expression was written to. -/
lemma tokenize_render {expr : Expr} (hleaves : ∀ value ∈ expr.leaves, value.HasFixedNotation) :
    tokenize expr.render = (tokensFrom 0 expr ++ [⟨.endOfInput, expr.render.length⟩], none) := by
  have whole := @tokensAt_written expr hleaves [] rfl 0
  rw [List.append_nil, @tokensAt_of_finished [] rfl] at whole
  rw [tokenize_eq_tokensAt, render_eq_parenthesized, ← String.length_toList]
  simpa [written] using whole

/-! ## Symbols -/

/-- The symbols that an expression is written with. -/
def symbols : (expr : Expr) → List Symbol
  | .leaf value => [.number value]
  | .node op left right =>
      .leftParen :: (symbols left ++ .operator op :: symbols right) ++ [.rightParen]
  | .foreign item => item.elim

/-- The symbols are those of the tokens. -/
lemma map_symbol_tokensFrom (expr : Expr) (pos : Nat) :
    (tokensFrom pos expr).map Token.symbol = symbols expr := by
  induction expr generalizing pos with
  | leaf value => rfl
  | foreign item => exact item.elim
  | node op left right ihl ihr => simp [tokensFrom, symbols, ihl, ihr]

/-- **The symbols are a factor that stands for the expression.** -/
theorem derives_symbols (expr : Expr) : Derives .factor (symbols expr) expr := by
  induction expr with
  | leaf value => exact .number value
  | foreign item => exact item.elim
  | node op left right ihl ihr => exact .group (.factors op ihl ihr)

/-- The symbols nest one level less deep than the tree. -/
lemma nestsWithin_symbols {expr : Expr} {limit : Int} (h : expr.height ≤ limit + 1) :
    NestsWithin limit (symbols expr) := by
  induction expr generalizing limit with
  | leaf value =>
      simp only [Tree.height] at h
      rw [symbols, nestsWithin_cons_iff, unclosed_number, nestsWithin_nil]
      omega
  | foreign item => exact item.elim
  | node op left right ihl ihr =>
      simp only [Tree.height] at h
      have positive := left.height_pos
      have inside : NestsWithin (limit - 1) (symbols left) := ihl (by omega)
      have inside' : NestsWithin (limit - 1) (symbols right) := ihr (by omega)
      simp only [symbols, List.cons_append, List.append_assoc, nestsWithin_cons_iff,
        nestsWithin_append_iff, nestsWithin_nil, unclosed_leftParen, unclosed_operator,
        unclosed_rightParen, (derives_symbols left).unclosed_eq_zero,
        (derives_symbols right).unclosed_eq_zero, Int.sub_zero]
      refine ⟨⟨by omega, by omega⟩, inside, ⟨by omega, by omega⟩, inside', ⟨by omega, by omega⟩,
        by omega⟩

end Expr

end Calculator
