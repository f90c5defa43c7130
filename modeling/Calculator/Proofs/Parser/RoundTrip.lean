import Calculator.Proofs.Expr.Written
import Calculator.Proofs.Parser.Automaton

/-!
# Written expressions are parsed back

What the parser makes of the written form of an expression whose leaves are in fixed notation.

* As long as the tree has at most 201 levels, its parentheses stay within the limit, and the parser
  finds the expression again: the symbols derive it, and they nest within the limit.
* A deeper tree is refused, and the place is the first opening parenthesis with 200 unclosed ones
  before it. The automaton leads there (`Stance.scan_tokensFrom`, `Stance.scan_of_deep`): a subtree
  that fits is passed over and leaves the count of open parentheses as it was, and in one that does
  not fit the place is found in the left part, or behind it in the right one.

The count on characters, `openIn`, needs to know nothing about tokens: `IsShallow` says that no
opening parenthesis of a text stands at the limit.
-/

namespace Calculator

/-! ## Parentheses in a text -/

/-- How many more parentheses a text opens than it closes. -/
def openIn (text : List Char) : Int :=
  text.count '(' - text.count ')'

/-- Nothing opens nothing. -/
@[simp] lemma openIn_nil : openIn [] = 0 := rfl

/-- Open parentheses add up. -/
@[simp] lemma openIn_append (first second : List Char) :
    openIn (first ++ second) = openIn first + openIn second := by
  simp only [openIn, List.count_append]
  omega

/-- The first character counts for itself. -/
lemma openIn_cons (c : Char) (text : List Char) : openIn (c :: text) = openIn [c] + openIn text :=
  openIn_append [c] text

/-- A text without parentheses opens nothing. -/
lemma openIn_eq_zero {text : List Char} (hopen : '(' ∉ text) (hclose : ')' ∉ text) :
    openIn text = 0 := by
  rw [openIn, List.count_eq_zero.mpr hopen, List.count_eq_zero.mpr hclose]
  rfl

/-- Where a text stands behind as many open parentheses, each that it opens has fewer than 200 before
it. -/
def IsShallow (opened : Int) (text : List Char) : Prop :=
  ∀ before behind, text = before ++ '(' :: behind → opened + openIn before < 200

namespace IsShallow

/-- A text without opening parentheses is shallow. -/
lemma of_notMem {opened : Int} {text : List Char} (h : '(' ∉ text) : IsShallow opened text := by
  rintro before behind rfl
  exact absurd (by simp) h

/-- One parenthesis below the limit is shallow. -/
lemma single {opened : Int} (h : opened < 200) : IsShallow opened ['('] := by
  intro before behind split
  cases before with
  | nil => simpa [openIn] using h
  | cons c before => simp at split

/-- A shallow text with one behind it that is shallow from there on. -/
lemma append {opened : Int} {first second : List Char} (hfirst : IsShallow opened first)
    (hsecond : IsShallow (opened + openIn first) second) : IsShallow opened (first ++ second) := by
  intro before behind split
  rcases List.append_eq_append_iff.mp split with ⟨more, rfl, hmore⟩ | ⟨more, rfl, hmore⟩
  · have inside := hsecond more behind hmore
    rw [openIn_append]
    omega
  · cases more with
    | nil =>
        have inside := hsecond [] behind hmore.symm
        rwa [List.append_nil, openIn_nil, Int.add_zero] at inside
    | cons c more =>
        obtain ⟨rfl, -⟩ := List.cons.inj hmore
        exact hfirst before more rfl

end IsShallow

/-- What stands before the first parenthesis that a text opens at the limit of 200. -/
structure StopsBehind (opened : Int) (text before : List Char) : Prop where
  /-- The parenthesis follows. -/
  starts : before ++ ['('] <+: text
  /-- There are 200 unclosed ones before it. -/
  full : opened + openIn before = 200
  /-- No earlier one has as many before it. -/
  shallow : IsShallow opened before

namespace StopsBehind

/-- At the limit it is the next parenthesis. -/
lemma here (text : List Char) : StopsBehind 200 ('(' :: text) [] where
  starts := ⟨text, rfl⟩
  full := rfl
  shallow := .of_notMem (by simp)

/-- What stands behind the parenthesis does not matter. -/
lemma append {opened : Int} {text before : List Char} (h : StopsBehind opened text before)
    (rest : List Char) : StopsBehind opened (text ++ rest) before where
  starts := h.starts.trans (List.prefix_append text rest)
  full := h.full
  shallow := h.shallow

/-- What stands before it may be any shallow text. -/
lemma behind {opened : Int} {front text before : List Char} (hfront : IsShallow opened front)
    (h : StopsBehind (opened + openIn front) text before) :
    StopsBehind opened (front ++ text) (front ++ before) where
  starts := by
    rw [List.append_assoc]
    exact (List.prefix_append_right_inj front).mpr h.starts
  full := by
    have full := h.full
    rw [openIn_append]
    omega
  shallow := hfront.append h.shallow

end StopsBehind

/-! ## Parentheses of the written form -/

namespace Expr

/-- A number in fixed notation has no parentheses. -/
lemma notMem_text {value : Binary64} (hfixed : value.HasFixedNotation) :
    '(' ∉ value.text.toList ∧ ')' ∉ value.text.toList := by
  constructor
  · intro hmem
    exact absurd (hfixed.1 _ hmem) (by decide)
  · intro hmem
    exact absurd (hfixed.1 _ hmem) (by decide)

/-- An operator is no parenthesis, and neither is the space around it. -/
lemma openIn_operator (op : Operator) (text : List Char) :
    openIn (' ' :: op.symbol :: ' ' :: text) = openIn text := by
  cases op <;> simp [openIn, Operator.symbol]

/-- The written form closes every parenthesis that it opens. -/
lemma openIn_written {expr : Expr} (hleaves : ∀ value ∈ expr.leaves, value.HasFixedNotation) :
    openIn (written expr) = 0 := by
  induction expr with
  | leaf value =>
      obtain ⟨hopen, hclose⟩ := notMem_text (hleaves value (by simp [Tree.leaves]))
      rw [written_leaf, openIn_eq_zero hopen hclose]
  | foreign item => exact item.elim
  | node op left right ihl ihr =>
      obtain ⟨hleft, hright⟩ := Tree.forall_leaves_node.mp hleaves
      rw [written_node, openIn_cons, openIn_append, openIn_operator, openIn_append, ihl hleft,
        ihr hright]
      rfl

/-- What stands before the right operand of an operation. -/
def frontOfRight (op : Operator) (left : Expr) : List Char :=
  '(' :: (written left ++ [' ', op.symbol, ' '])

/-- An operation, divided before its right operand. -/
lemma written_node_eq_append (op : Operator) (left right : Expr) :
    written (.node op left right) = frontOfRight op left ++ (written right ++ [')']) := by
  simp [written_node, frontOfRight]

/-- What stands before the right operand opens one parenthesis. -/
lemma openIn_frontOfRight {left : Expr} (hleaves : ∀ value ∈ left.leaves, value.HasFixedNotation)
    (op : Operator) : openIn (frontOfRight op left) = 1 := by
  rw [frontOfRight, openIn_cons, openIn_append, openIn_written hleaves, openIn_operator]
  rfl

/-- What stands before the right operand is shallow, if the left operand is. -/
lemma isShallow_frontOfRight {opened : Int} {left : Expr} (hopened : opened < 200)
    (hleft : IsShallow (opened + 1) (written left)) (op : Operator) :
    IsShallow opened (frontOfRight op left) := by
  have blank : '(' ∉ [' ', op.symbol, ' '] := by cases op <;> decide
  exact (IsShallow.single hopened).append (hleft.append (.of_notMem blank))

/-- The written form of a tree whose levels fit is shallow. -/
lemma isShallow_written {expr : Expr} (hleaves : ∀ value ∈ expr.leaves, value.HasFixedNotation)
    {opened : Int} (hfits : opened + expr.height ≤ 201) : IsShallow opened (written expr) := by
  induction expr generalizing opened with
  | leaf value =>
      rw [written_leaf]
      exact .of_notMem (notMem_text (hleaves value (by simp [Tree.leaves]))).1
  | foreign item => exact item.elim
  | node op left right ihl ihr =>
      obtain ⟨hleft, hright⟩ := Tree.forall_leaves_node.mp hleaves
      simp only [Tree.height] at hfits
      have positive := left.height_pos
      have below : opened < 200 := by omega
      have front := isShallow_frontOfRight below (ihl hleft (by omega)) op
      have inside : IsShallow (opened + 1) (written right) := ihr hright (by omega)
      have close : IsShallow (opened + 1 + openIn (written right)) [')'] := .of_notMem (by decide)
      rw [written_node_eq_append]
      refine front.append ?_
      rw [openIn_frontOfRight hleft]
      exact inside.append close

end Expr

/-! ## The automaton on the written form -/

namespace Stance

variable {source : String} {allowTrailing : Bool} {fault : Option Fault}

/-- A parenthesis below the limit is passed, one level down. -/
lemma scan_leftParen {opened : Nat} (h : opened < 200) (pos : Nat) (later : List Token) :
    (operand opened).scan source allowTrailing fault (⟨.leftParen, pos⟩ :: later) =
      (operand (opened + 1)).scan source allowTrailing fault later := by
  rw [scan, move, if_neg (by omega)]

/-- A number is passed. -/
lemma scan_number (opened : Nat) (value : Binary64) (pos : Nat) (later : List Token) :
    (operand opened).scan source allowTrailing fault (⟨.number value, pos⟩ :: later) =
      (operator opened).scan source allowTrailing fault later := by
  rw [scan, move]

/-- An operator is passed. -/
lemma scan_operator (opened : Nat) (op : Operator) (pos : Nat) (later : List Token) :
    (operator opened).scan source allowTrailing fault (⟨.operator op, pos⟩ :: later) =
      (operand opened).scan source allowTrailing fault later := by
  cases opened <;> rw [scan, move]

/-- A parenthesis that closes a group is passed, one level up. -/
lemma scan_rightParen (opened : Nat) (pos : Nat) (later : List Token) :
    (operator (opened + 1)).scan source allowTrailing fault (⟨.rightParen, pos⟩ :: later) =
      (operator opened).scan source allowTrailing fault later := by
  rw [scan, move]

/-- **A written expression whose levels fit is passed over**, and leaves as many parentheses open as
there were. -/
lemma scan_tokensFrom {expr : Expr} {opened : Nat} (hfits : opened + expr.height ≤ 201) (pos : Nat)
    (later : List Token) :
    (operand opened).scan source allowTrailing fault (Expr.tokensFrom pos expr ++ later) =
      (operator opened).scan source allowTrailing fault later := by
  induction expr generalizing opened pos later with
  | leaf value => exact scan_number opened value pos later
  | foreign item => exact item.elim
  | node op left right ihl ihr =>
      simp only [Tree.height] at hfits
      have positive := left.height_pos
      simp only [Expr.tokensFrom, List.cons_append, List.append_assoc, List.nil_append]
      rw [scan_leftParen (by omega), ihl (by omega), scan_operator, ihr (by omega), scan_rightParen]

/-- **In a written expression whose levels do not fit** the scan stops at the first opening
parenthesis with 200 unclosed ones before it. -/
lemma scan_of_deep {expr : Expr} (hleaves : ∀ value ∈ expr.leaves, value.HasFixedNotation)
    {opened : Nat} (hopened : opened ≤ 200) (hdeep : 201 < opened + expr.height) (pos : Nat)
    (later : List Token) :
    ∃ before, StopsBehind opened (Expr.written expr) before ∧
      (operand opened).scan source allowTrailing fault (Expr.tokensFrom pos expr ++ later) =
        some (.error (Token.objection ⟨.leftParen, pos + before.length⟩ source
          "expression too deeply nested")) := by
  induction expr generalizing opened pos later with
  | leaf value =>
      simp only [Tree.height] at hdeep
      omega
  | foreign item => exact item.elim
  | node op left right ihl ihr =>
      obtain ⟨hleft, hright⟩ := Tree.forall_leaves_node.mp hleaves
      simp only [Tree.height] at hdeep
      simp only [Expr.tokensFrom, List.cons_append, List.append_assoc, List.nil_append]
      by_cases hfull : opened = 200
      · -- the parenthesis of this very operation is the one
        subst hfull
        refine ⟨[], Expr.written_node op left right ▸ .here _, ?_⟩
        rw [scan, move, if_pos le_rfl]
        rfl
      · have below : (opened : Int) < 200 := by omega
        rw [scan_leftParen (by omega)]
        by_cases hleftDeep : 201 < opened + 1 + left.height
        · obtain ⟨before, stops, hscan⟩ := ihl hleft (by omega) hleftDeep (pos + 1) _
          refine ⟨['('] ++ before, ?_, ?_⟩
          · rw [Expr.written_node, ← List.singleton_append]
            exact .behind (.single below) (stops.append _)
          · rw [hscan, List.length_append, List.length_singleton, Nat.add_assoc]
        · obtain ⟨before, stops, hscan⟩ := @ihr hright (opened + 1) (by omega) (by omega)
            (pos + 1 + (Expr.written left).length + 3) _
          have front : IsShallow opened (Expr.frontOfRight op left) :=
            Expr.isShallow_frontOfRight below (Expr.isShallow_written hleft (by omega)) op
          refine ⟨Expr.frontOfRight op left ++ before, ?_, ?_⟩
          · rw [Expr.written_node_eq_append]
            refine .behind front ?_
            rw [Expr.openIn_frontOfRight hleft]
            exact stops.append _
          · have place : pos + (Expr.frontOfRight op left ++ before).length =
                pos + 1 + (Expr.written left).length + 3 + before.length := by
              simp only [Expr.frontOfRight, List.length_append, List.length_cons, List.length_nil]
              omega
            rw [scan_tokensFrom (by omega), scan_operator, hscan, place]

end Stance

/-! ## Printing and parsing -/

/-- The objection to an opening parenthesis. -/
lemma Token.objection_leftParen (pos : Nat) (source words : String) :
    Token.objection ⟨.leftParen, pos⟩ source words =
      ⟨.syntactic, words ++ ": '('", some ⟨source, pos⟩⟩ := by
  have shown : Symbol.leftParen.shown = "'('" := by decide +kernel
  rw [objection]
  simp only [isEnd, shown]
  rfl

/-- **Print and parse.** An expression whose leaves are finite, without a sign and in fixed notation,
with at most 201 levels, is found again in its written form. If it has more levels, its written form
is refused at the first opening parenthesis with 200 unclosed ones before it. -/
theorem parseExpr_render (expr : Expr)
    (hleaves : ∀ value ∈ expr.leaves,
      value.isFinite = true ∧ value.isNegative = false ∧ value.HasFixedNotation) :
    (expr.depth ≤ 201 → parseExpr expr.render false = .ok expr) ∧
      (201 < expr.depth → ∃ before behind : List Char,
        expr.render.toList = before ++ '(' :: behind ∧ openIn before = 200 ∧
          (∀ part more, before = part ++ '(' :: more → openIn part ≠ 200) ∧
            parseExpr expr.render false = .error ⟨.syntactic,
              "expression too deeply nested: '('", some ⟨expr.render, before.length⟩⟩) := by
  have hfixed : ∀ value ∈ expr.leaves, value.HasFixedNotation :=
    fun value hvalue => (hleaves value hvalue).2.2
  have tokens := Expr.tokenize_render hfixed
  rw [expr.depth_eq_height]
  constructor
  · intro hdepth
    apply parseExpr_of_derives tokens
    · rw [Expr.map_symbol_tokensFrom]
      exact .single (.single expr.derives_symbols)
    · rw [Expr.map_symbol_tokensFrom]
      exact Expr.nestsWithin_symbols (by omega)
  · intro hdepth
    obtain ⟨before, stops, hscan⟩ := @Stance.scan_of_deep expr.render false none expr hfixed 0
      (by omega) (by omega) 0 [⟨.endOfInput, expr.render.length⟩]
    obtain ⟨behind, split⟩ := stops.starts
    refine ⟨before, behind, ?_, by simpa using stops.full, ?_, ?_⟩
    · rw [expr.render_eq_parenthesized, ← List.singleton_append, ← List.append_assoc]
      exact split.symm
    · intro part more hpart
      have below := stops.shallow part more hpart
      omega
    · rw [← verdict_eq_error_iff, verdict, tokens, hscan, Nat.zero_add, Token.objection_leftParen]
      rfl

/-- The expression `1.0 + 1.0 + … + 1.0` of that many operations, each the left operand of the next.
-/
def tower : (operations : Nat) → Expr
  | 0 => .leaf .one
  | operations + 1 => .node .plus (tower operations) (.leaf .one)

/-- A tower is as high as it has operations, and one for the leaf. -/
lemma height_tower (operations : Nat) : (tower operations).height = operations + 1 := by
  induction operations with
  | zero => rfl
  | succ operations ih =>
      rw [tower, Tree.height, ih, Tree.height]
      omega

/-- All leaves of a tower are one. -/
lemma eq_one_of_mem_leaves_tower {operations : Nat} {value : Binary64}
    (h : value ∈ (tower operations).leaves) : value = .one := by
  induction operations with
  | zero => simpa [tower, Tree.leaves] using h
  | succ operations ih =>
      simp only [tower, Tree.leaves, List.mem_append, List.mem_singleton] at h
      exact h.elim ih id

/-- A tower of 200 additions is parsed back, and one of 201 is refused. -/
theorem parseExpr_render_tower :
    parseExpr (Expr.render (tower 200)) false = .ok (tower 200) ∧
      ∃ place, parseExpr (Expr.render (tower 201)) false =
        .error ⟨.syntactic, "expression too deeply nested: '('", some place⟩ := by
  have digits : Binary64.one.plainForm = ['1', '.', '0'] := by decide +kernel
  have one : Binary64.one.isFinite = true ∧ Binary64.one.isNegative = false ∧
      Binary64.one.HasFixedNotation := by
    refine ⟨rfl, rfl, ?_⟩
    unfold Binary64.HasFixedNotation Binary64.text
    rw [String.toList_ofList, digits]
    exact ⟨by simp, rfl⟩
  refine ⟨(parseExpr_render (tower 200) ?_).1 ?_, ?_⟩
  · intro value hvalue
    rw [eq_one_of_mem_leaves_tower hvalue]
    exact one
  · rw [Tree.depth_eq_height, height_tower]
  · obtain ⟨before, -, -, -, -, refused⟩ := (parseExpr_render (tower 201) fun value hvalue =>
      eq_one_of_mem_leaves_tower hvalue ▸ one).2 (by rw [Tree.depth_eq_height, height_tower]; omega)
    exact ⟨_, refused⟩

end Calculator
