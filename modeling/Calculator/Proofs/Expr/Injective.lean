import Calculator.Proofs.Decimal.Display
import Calculator.Proofs.Expr.Written
import Calculator.Proofs.Text.Plain

/-!
# The written form determines the expression

No two expressions are written alike (`render_inj`). The lexer is of no help here: it does not read
minus signs, exponents or the words for what is no finite number, and leaves may be any of these.

* **Numbers are written apart from each other**: the reader of numbers makes the number of its plain
  form (`Binary64.ofText?_text`).
* **A number ends where its text does**: no parenthesis and no space is in it (`notMem_delimiters`),
  and in a written expression one of these stands behind every leaf.
* **An operation shows where its operands end**: so two written forms are compared from the front,
  by induction on one tree against any other (`written_append_inj`).
-/

namespace Calculator

/-! ## Numbers in a text -/

/-- The characters that end a number in a written expression. -/
def delimiters : List Char := ['(', ')', ' ']

/-- No number has one of them in its plain form. -/
lemma notMem_delimiters {x : Binary64} {c : Char} (h : c ∈ x.text.toList) : c ∉ delimiters := by
  have none : ∀ c ∈ numberCharacters, c ∉ delimiters := List.all_iff_forall_prop.mp (by decide)
  rw [Binary64.text, String.toList_ofList] at h
  exact none c (mem_numberCharacters h)

/-- A text that does not go on with a number: it is empty or begins with a delimiter. -/
def IsDelimited (text : List Char) : Prop :=
  ∀ c ∈ text.head?, c ∈ delimiters

/-- Nothing goes on with no number. -/
lemma isDelimited_nil : IsDelimited [] := by
  intro c hc
  cases hc

/-- A delimiter ends a number. -/
lemma isDelimited_cons {c : Char} (h : c ∈ delimiters) (text : List Char) :
    IsDelimited (c :: text) := by
  intro d hd
  rwa [← Option.some.inj hd]

/-- What stands before the first delimiter is the number. -/
lemma takeWhile_text_append (x : Binary64) {rest : List Char} (h : IsDelimited rest) :
    (x.text.toList ++ rest).takeWhile (· ∉ delimiters) = x.text.toList := by
  have inside : ∀ c ∈ x.text.toList, decide (c ∉ delimiters) = true := by
    intro c hc
    rw [decide_eq_true_eq]
    exact notMem_delimiters hc
  have behind : rest.takeWhile (· ∉ delimiters) = [] := by
    cases rest with
    | nil => rfl
    | cons c rest =>
        apply List.takeWhile_cons_of_neg
        rw [decide_eq_true_eq, not_not]
        exact h c rfl
  rw [List.takeWhile_append_of_pos inside, behind, List.append_nil]

/-- A number is written with a character at least. -/
lemma text_ne_nil (x : Binary64) : x.text.toList ≠ [] := by
  intro empty
  have read := x.ofText?_text
  rw [empty] at read
  cases read

/-- **A number can be read off the front of a text**, with what stands behind it. -/
lemma text_append_inj {x x' : Binary64} {rest rest' : List Char} (h : IsDelimited rest)
    (h' : IsDelimited rest') (same : x.text.toList ++ rest = x'.text.toList ++ rest') :
    x = x' ∧ rest = rest' := by
  have texts : x.text.toList = x'.text.toList := by
    rw [← takeWhile_text_append x h, same, takeWhile_text_append x' h']
  rw [texts] at same
  have numbers := congrArg Binary64.ofText? texts
  rw [x.ofText?_text, x'.ofText?_text] at numbers
  exact ⟨Option.some.inj numbers, List.append_cancel_left same⟩

namespace Expr

/-! ## Expressions in a text -/

/-- An operation in front of a text, piece by piece. -/
lemma written_node_append (op : Operator) (left right : Expr) (rest : List Char) :
    written (.node op left right) ++ rest =
      '(' :: (written left ++ ' ' :: op.symbol :: ' ' :: (written right ++ ')' :: rest)) := by
  simp [written_node]

/-- No number begins like an operation. -/
lemma written_leaf_append_ne {x : Binary64} {op : Operator} {left right : Expr}
    {rest rest' : List Char} :
    written (.leaf x) ++ rest ≠ written (.node op left right) ++ rest' := by
  obtain ⟨c, text, split⟩ := List.exists_cons_of_ne_nil (text_ne_nil x)
  have first : c ∉ delimiters := notMem_delimiters (split ▸ List.mem_cons_self)
  rw [written_leaf, split, written_node_append]
  intro same
  rw [(List.cons.inj same).1] at first
  exact first (by decide)

/-- Operators have symbols of their own. -/
lemma symbol_inj {op op' : Operator} (h : op.symbol = op'.symbol) : op = op' := by
  have known : Operator.ofSymbol? op.symbol = some op := Operator.ofSymbol?_eq_some_iff.mpr rfl
  rw [h, Operator.ofSymbol?_eq_some_iff.mpr rfl] at known
  exact (Option.some.inj known).symm

/-- **An expression can be read off the front of a text**, with what stands behind it. -/
theorem written_append_inj {expr expr' : Expr} {rest rest' : List Char} (h : IsDelimited rest)
    (h' : IsDelimited rest') (same : written expr ++ rest = written expr' ++ rest') :
    expr = expr' ∧ rest = rest' := by
  have space := isDelimited_cons (c := ' ') (by decide)
  have closing := isDelimited_cons (c := ')') (by decide)
  -- on one of the trees, with any other tree and any two texts behind them
  induction expr generalizing expr' rest rest' with
  | foreign item => exact item.elim
  | leaf x =>
      cases expr' with
      | foreign item => exact item.elim
      | node op left right => exact absurd same written_leaf_append_ne
      | leaf x' =>
          obtain ⟨rfl, behind⟩ := text_append_inj h h' same
          exact ⟨rfl, behind⟩
  | node op left right ihl ihr =>
      cases expr' with
      | foreign item => exact item.elim
      | leaf x' => exact absurd same.symm written_leaf_append_ne
      | node op' left' right' =>
          rw [written_node_append, written_node_append] at same
          obtain ⟨rfl, behindLeft⟩ := ihl (space _) (space _) (List.cons.inj same).2
          simp only [List.cons.injEq, true_and] at behindLeft
          obtain ⟨symbols, later⟩ := behindLeft
          obtain ⟨rfl, behindRight⟩ := ihr (closing _) (closing _) later
          rw [symbol_inj symbols, (List.cons.inj behindRight).2]
          exact ⟨rfl, rfl⟩

/-- **No two expressions are written alike.** -/
theorem render_inj (expr expr' : Expr) : expr.render = expr'.render ↔ expr = expr' := by
  constructor
  · intro same
    rw [render_eq_parenthesized, render_eq_parenthesized] at same
    have characters : written expr ++ [] = written expr' ++ [] := by
      rw [List.append_nil, List.append_nil, written, written, same]
    exact (written_append_inj isDelimited_nil isDelimited_nil characters).1
  · rintro rfl
    rfl

end Expr

end Calculator
