import Calculator.Calculation
import Calculator.Proofs.Expr.Written
import Calculator.Proofs.Parser.Consumption
import Calculator.Proofs.Parser.Trailing

/-!
# A tree in order

The walk through a tree in order meets its numbers and its operators, each operator between its two
operands (`Expr.inorder`). Of the symbols that derive a tree it meets all but the parentheses, once
each and in their order (`Derives.inorder_eq`): the grammar only groups.

The walk also knows the shape of the tree. Every inner node has two operands, so there is one operator
less than there are numbers (`Expr.size_eq`), and a path down to a number passes operators only, each
of which leaves a number aside (`Expr.height_le`).

`inorder_of_parseExpr` has this of all sources that are parsed, for the tokens that were consumed.
-/

namespace Calculator

/-! ## Symbols of a tree -/

namespace Symbol

/-- Whether a symbol only groups. -/
def isParenthesis : Symbol → Bool
  | leftParen | rightParen => true
  | _ => false

/-- The number that a symbol is. -/
def number? : Symbol → Option Binary64
  | number value => some value
  | _ => none

/-- Only the symbol of a number is that number. -/
lemma number?_eq_some_iff {symbol : Symbol} {value : Binary64} :
    symbol.number? = some value ↔ symbol = .number value := by
  cases symbol <;> simp [number?]

end Symbol

/-- The numbers and operators of an expression, from left to right. -/
def Expr.inorder : Expr → List Symbol
  | .leaf value => [.number value]
  | .node op left right => Expr.inorder left ++ .operator op :: Expr.inorder right
  | .foreign item => item.elim

/-! ## What the grammar keeps -/

namespace Derives

variable {phrase : Phrase} {symbols : List Symbol} {tree : Expr}

/-- **A tree in order is its symbols without the parentheses.** -/
lemma inorder_eq (h : Derives phrase symbols tree) :
    tree.inorder = symbols.filter fun symbol => !symbol.isParenthesis := by
  induction h using link_induction with
  | number value => rfl
  | @group written tree inner ih =>
      have closing : [Symbol.rightParen].filter (fun symbol => !symbol.isParenthesis) = [] := rfl
      rw [List.cons_append, List.filter_cons_of_neg (by decide), List.filter_append, closing,
        List.append_nil, ih]
  | single h ih => exact ih
  | attach op hleft hright ihLeft ihRight =>
      rw [List.filter_append, List.filter_cons_of_pos rfl, Expr.inorder, ihLeft, ihRight]

/-- **The leaves of a tree are the numbers of its symbols**, in order. -/
lemma leaves_eq (h : Derives phrase symbols tree) :
    tree.leaves = symbols.filterMap Symbol.number? := by
  induction h using link_induction with
  | number value => rfl
  | @group written tree inner ih =>
      have closing : [Symbol.rightParen].filterMap Symbol.number? = [] := rfl
      rw [List.cons_append, List.filterMap_cons_none rfl, List.filterMap_append, closing,
        List.append_nil, ih]
  | single h ih => exact ih
  | attach op hleft hright ihLeft ihRight =>
      rw [List.filterMap_append, List.filterMap_cons_none rfl, Tree.leaves, ihLeft, ihRight]

end Derives

/-! ## Shape -/

namespace Expr

/-- An expression has a leaf. -/
lemma length_leaves_pos (expr : Expr) : 0 < expr.leaves.length := by
  induction expr with
  | leaf value => exact Nat.one_pos
  | foreign item => exact item.elim
  | node op left right ihl ihr =>
      rw [Tree.leaves, List.length_append]
      exact Nat.add_pos_left ihl _

/-- An expression has one operator less than it has leaves. -/
lemma size_eq (expr : Expr) : expr.size = 2 * expr.leaves.length - 1 := by
  induction expr with
  | leaf value => rfl
  | foreign item => exact item.elim
  | node op left right ihl ihr =>
      have someLeft := length_leaves_pos left
      have someRight := length_leaves_pos right
      rw [Tree.size, Tree.leaves, List.length_append, ihl, ihr]
      omega

/-- No path down an expression has more nodes than there are leaves. -/
lemma height_le (expr : Expr) : expr.height ≤ expr.leaves.length := by
  induction expr with
  | leaf value => exact le_rfl
  | foreign item => exact item.elim
  | node op left right ihl ihr =>
      have someLeft := length_leaves_pos left
      have someRight := length_leaves_pos right
      rw [Tree.height, Tree.leaves, List.length_append]
      omega

end Expr

/-! ## Sources that are parsed -/

/-- A source that is parsed is read by the rule for an expression, from a parser that starts on it. -/
lemma exists_parse_of_parseExpr {source : String} {allowTrailing : Bool} {tree : Expr}
    (h : parseExpr source allowTrailing = .ok tree) :
    ∃ p q : Parser, Parser.start (.ofSource source) allowTrailing = .ok p ∧
      p.parse = .ok (tree, q) ∧ Parser.read .expression p = .ok (tree, q) ∧
        (calculate source allowTrailing).tokens = q.lexer.recorded.toList := by
  have record : (calculate source allowTrailing).tokens =
      (parseSource source allowTrailing).lexer.recorded.toList := rfl
  rw [record]
  rw [parseExpr] at h
  unfold parseSource at h ⊢
  cases hstart : Parser.start (.ofSource source) allowTrailing with
  | error stopped =>
      rw [hstart] at h
      cases h
  | ok p =>
      rw [hstart] at h
      cases hparse : p.parse with
      | error stopped =>
          simp only [hparse] at h
          cases h
      | ok answer =>
          obtain ⟨tree', q⟩ := answer
          simp only [hparse] at h ⊢
          cases h
          refine ⟨p, q, rfl, hparse, ?_, rfl⟩
          unfold Parser.parse at hparse
          split at hparse
          · cases hparse
          · rename_i tree'' q' hread
            split_ifs at hparse
            cases hparse
            exact hread

/-- **A parsed tree keeps every number and every operator, once and in order.** Walked through in
order it is the tokens that were consumed, which are all those handed out but the last, less the
parentheses among them. With so many numbers among the tokens the number of nodes is settled, and
the depth is at most as great. -/
theorem inorder_of_parseExpr {source : String} {allowTrailing : Bool} {tree : Expr}
    (h : parseExpr source allowTrailing = .ok tree) :
    ∃ (p q : Parser) (taken : List Token),
      Parser.start (.ofSource source) allowTrailing = .ok p ∧ p.parse = .ok (tree, q) ∧
      p.Consumes taken q ∧ (calculate source allowTrailing).tokens = taken ++ [q.current] ∧
      tree.inorder = (taken.map Token.symbol).filter (fun symbol => !symbol.isParenthesis) ∧
      let numbers := ((taken.map Token.symbol).filterMap Symbol.number?).length
      0 < numbers ∧ tree.nodeCount = 2 * numbers - 1 ∧ tree.depth ≤ numbers := by
  obtain ⟨p, q, hstart, hparse, hread, record⟩ := exists_parse_of_parseExpr h
  obtain ⟨taken, run, took⟩ := Parser.exists_run_of_read hread
  have logged := (Parser.Logged.of_start hstart).run run
  refine ⟨p, q, taken, hstart, hparse, run.consumes, record.trans logged.recorded,
    took.derives.inorder_eq, ?_⟩
  rw [← took.derives.leaves_eq, Tree.nodeCount_eq_size, Tree.depth_eq_height]
  exact ⟨tree.length_leaves_pos, tree.size_eq, tree.height_le⟩

/-- A difference in parentheses, with one parenthesis too many behind it. -/
theorem inorder_of_parseExpr_parenthesis :
    parseExpr "(1-2))" true =
        .ok (.node .minus (.leaf (.ofDecimal false ⟨1, 0⟩)) (.leaf (.ofDecimal false ⟨2, 0⟩))) ∧
      ∃ (p q : Parser) (taken : List Token),
        Parser.start (.ofSource "(1-2))") true = .ok p ∧
        p.parse = .ok (.node .minus (.leaf (.ofDecimal false ⟨1, 0⟩))
          (.leaf (.ofDecimal false ⟨2, 0⟩)), q) ∧
        p.Consumes taken q ∧ (calculate "(1-2))" true).tokens = taken ++ [q.current] ∧
        [.number (.ofDecimal false ⟨1, 0⟩), .operator .minus, .number (.ofDecimal false ⟨2, 0⟩)] =
          (taken.map Token.symbol).filter (fun symbol => !symbol.isParenthesis) ∧
        let numbers := ((taken.map Token.symbol).filterMap Symbol.number?).length
        0 < numbers ∧ 3 = 2 * numbers - 1 ∧ 2 ≤ numbers := by
  have digit : ∀ (c : Char) (text : List Char) (pos : Nat), isNumeralChar c = true →
      text.takeWhile isNumeralChar = [] → ∀ d, Decimal.ofNumeral? [c] = some d →
        tokensAt pos (c :: text) =
          Token.followedBy ⟨.number (.ofDecimal false d), pos⟩ (tokensAt (pos + 1) text) :=
    fun c text pos hc htext d hd => tokensAt_numeral hd (by simpa using hc) htext pos
  have closing : ∀ pos text, tokensAt pos (')' :: text) =
      Token.followedBy ⟨.rightParen, pos⟩ (tokensAt (pos + 1) text) :=
    tokensAt_symbol (by decide) (by decide) rfl
  have characters : "(1-2))".toList = ['(', '1', '-', '2', ')', ')'] := rfl
  have tokens : tokenize "(1-2))" = ([⟨.leftParen, 0⟩, ⟨.number (.ofDecimal false ⟨1, 0⟩), 1⟩,
      ⟨.operator .minus, 2⟩, ⟨.number (.ofDecimal false ⟨2, 0⟩), 3⟩, ⟨.rightParen, 4⟩,
      ⟨.rightParen, 5⟩, ⟨.endOfInput, 6⟩], none) := by
    rw [tokenize_eq_tokensAt, characters, tokensAt_symbol (by decide) (by decide) rfl,
      digit '1' _ _ rfl rfl ⟨1, 0⟩ rfl, tokensAt_symbol (by decide) (by decide) rfl,
      digit '2' _ _ rfl rfl ⟨2, 0⟩ rfl, closing, closing, @tokensAt_of_finished [] rfl]
    rfl
  have leads : Leads "(1-2))" [⟨.leftParen, 0⟩, ⟨.number (.ofDecimal false ⟨1, 0⟩), 1⟩,
      ⟨.operator .minus, 2⟩, ⟨.number (.ofDecimal false ⟨2, 0⟩), 3⟩, ⟨.rightParen, 4⟩]
      (.node .minus (.leaf (.ofDecimal false ⟨1, 0⟩)) (.leaf (.ofDecimal false ⟨2, 0⟩)))
      ⟨.rightParen, 5⟩ :=
    ⟨⟨_, _, tokens⟩, .single (.single (.group (.factors .minus (.number _) (.number _)))),
      by simp [nestsWithin_cons_iff], rfl⟩
  have parsed := parseExpr_of_leads leads true
  refine ⟨parsed, ?_⟩
  obtain ⟨p, q, taken, hstart, hparse, consumes, record, inorder, some, nodes, depth⟩ :=
    inorder_of_parseExpr parsed
  rw [Tree.nodeCount_eq_size] at nodes
  rw [Tree.depth_eq_height] at depth
  exact ⟨p, q, taken, hstart, hparse, consumes, record, inorder, some, nodes, depth⟩

end Calculator
