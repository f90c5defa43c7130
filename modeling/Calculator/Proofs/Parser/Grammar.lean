import Mathlib.Data.List.Induction
import Mathlib.Tactic.Common
import Calculator.Parser

/-!
# The grammar of expressions

The grammar, as a relation between a phrase, the symbols it is written with and the tree it stands
for (`Derives`):

    expression  →  term ((+ | -) term)*
    term        →  factor ((* | /) factor)*
    factor      →  number | ( expression )

A repetition is a list of links, each an operator with the operand behind it, and its tree is the
fold of the links to the left. Nothing here knows about a parser, a lookahead or a limit. Phrases may
be taken apart link by link, with no fold in sight (`Derives.link_induction`).

* **The grammar is unambiguous** (`Derives.unique`): symbols derive at most one tree. The induction
  needs more, for it meets a phrase with symbols behind it: of two phrases at the front of one list,
  neither of which could go on, both are the same (`Derives.unique_of_append`).
* A derived phrase closes every parenthesis that it opens (`Derives.unclosed_eq_zero`), so the
  nesting of its parts is the nesting of the whole (`nestsWithin_append_iff`), and none that it does
  not open (`Derives.grounded`).
-/

namespace Calculator

/-! ## Phrases -/

/-- A rule of the grammar. -/
inductive Phrase
  /-- Operands of a level, with operators of that level between them. -/
  | chain (level : Level)
  /-- A number, or an expression in parentheses. -/
  | factor
deriving DecidableEq

/-- An expression is a chain of terms. -/
abbrev Phrase.expression : Phrase := .chain .sum

/-- A term is a chain of factors. -/
abbrev Phrase.term : Phrase := .chain .product

/-- What stands between the operators of a level. -/
def Level.operand : Level → Phrase
  | sum => .term
  | product => .factor

/-- An operator and the operand behind it, in writing and as a tree. -/
structure Link where
  /-- The operator. -/
  op : Operator
  /-- The symbols of the operand. -/
  written : List Symbol
  /-- The tree of the operand. -/
  operand : Expr

namespace Link

/-- The symbols of a link. -/
def symbols (link : Link) : List Symbol :=
  .operator link.op :: link.written

/-- A tree with a link at its right. -/
def attach (left : Expr) (link : Link) : Expr :=
  .node link.op left link.operand

end Link

/-- Which symbols are a phrase, and which tree they stand for. -/
inductive Derives : Phrase → List Symbol → Expr → Prop
  /-- A number is a factor. -/
  | number (value : Binary64) : Derives .factor [.number value] (.leaf value)
  /-- An expression in parentheses is a factor. -/
  | group {written : List Symbol} {tree : Expr} (inner : Derives .expression written tree) :
      Derives .factor (.leftParen :: written ++ [.rightParen]) tree
  /-- An operand and any number of links of one level are a chain, folded to the left. -/
  | chain {level : Level} {first : List Symbol} {tree : Expr} {links : List Link}
      (head : Derives level.operand first tree)
      (levels : ∀ link ∈ links, link.op.level = level)
      (operands : ∀ link ∈ links, Derives level.operand link.written link.operand) :
      Derives (.chain level) (first ++ links.flatMap Link.symbols)
        (links.foldl Link.attach tree)

namespace Derives

/-- An operand alone is a chain. -/
lemma single {level : Level} {symbols : List Symbol} {tree : Expr}
    (h : Derives level.operand symbols tree) : Derives (.chain level) symbols tree := by
  simpa using @chain level symbols tree [] h (by simp) (by simp)

/-- A factor is an operand of any level. -/
lemma operand {symbols : List Symbol} {tree : Expr} (h : Derives .factor symbols tree)
    (level : Level) : Derives level.operand symbols tree := by
  cases level with
  | sum => exact single h
  | product => exact h

/-- A chain of any level is an expression. -/
lemma expression {level : Level} {symbols : List Symbol} {tree : Expr}
    (h : Derives (.chain level) symbols tree) : Derives .expression symbols tree := by
  cases level with
  | sum => exact h
  | product => exact single h

/-- A chain with an operator of its level and an operand behind it is a chain, with the tree of the
longer one on top. -/
lemma attach {left right : List Symbol} {x y : Expr} (op : Operator)
    (hleft : Derives (.chain op.level) left x) (hright : Derives op.level.operand right y) :
    Derives (.chain op.level) (left ++ .operator op :: right) (.node op x y) := by
  cases hleft with
  | @chain _ first tree links head levels operands =>
      have levels' : ∀ link ∈ links ++ [⟨op, right, y⟩], link.op.level = op.level := by
        intro link hlink
        rcases List.mem_append.mp hlink with hlink | hlink
        · exact levels link hlink
        · rw [List.mem_singleton.mp hlink]
      have operands' : ∀ link ∈ links ++ [⟨op, right, y⟩],
          Derives op.level.operand link.written link.operand := by
        intro link hlink
        rcases List.mem_append.mp hlink with hlink | hlink
        · exact operands link hlink
        · rw [List.mem_singleton.mp hlink]
          exact hright
      simpa [Link.symbols, Link.attach] using chain head levels' operands'

/-- Two factors with any operator between them are an expression. -/
lemma factors {left right : List Symbol} {x y : Expr} (op : Operator)
    (hleft : Derives .factor left x) (hright : Derives .factor right y) :
    Derives .expression (left ++ .operator op :: right) (.node op x y) :=
  (attach op (single (hleft.operand _)) (hright.operand _)).expression

/-- **Induction over phrases, link by link.** A chain is an operand, or a shorter chain with one more
link at its right. -/
@[elab_as_elim]
theorem link_induction
    {motive : ∀ {phrase : Phrase} {symbols : List Symbol} {tree : Expr},
      Derives phrase symbols tree → Prop}
    (number : ∀ value : Binary64, motive (.number value))
    (group : ∀ {written : List Symbol} {tree : Expr} (inner : Derives .expression written tree),
      motive inner → motive (.group inner))
    (single : ∀ {level : Level} {symbols : List Symbol} {tree : Expr}
      (h : Derives level.operand symbols tree), motive h → motive (single h))
    (attach : ∀ {left right : List Symbol} {x y : Expr} (op : Operator)
      (hleft : Derives (.chain op.level) left x) (hright : Derives op.level.operand right y),
      motive hleft → motive hright → motive (attach op hleft hright))
    {phrase : Phrase} {symbols : List Symbol} {tree : Expr} (h : Derives phrase symbols tree) :
    motive h := by
  induction h with
  | number value => exact number value
  | group inner ih => exact group inner ih
  | @chain level first tree links head levels operands ihHead ihOperands =>
      induction links using List.reverseRecOn with
      | nil => simpa using single head ihHead
      | append_singleton links link ih =>
          have levels' : ∀ l ∈ links, l.op.level = level := fun l hl => levels l (by simp [hl])
          have shorter := ih levels' (fun l hl => operands l (by simp [hl]))
            fun l hl => ihOperands l (by simp [hl])
          have last : link ∈ links ++ [link] := by simp
          obtain rfl := levels link last
          simpa [Link.symbols, Link.attach] using
            attach link.op _ (operands link last) shorter (ihOperands link last)

end Derives

/-! ## Where a phrase may end -/

namespace Phrase

/-- Whether a phrase goes on when it is followed by a symbol: a chain does so at the operators of
its level and of the tighter one. -/
def continues : Phrase → Symbol → Bool
  | chain level, .operator op => op.level.rank ≤ level.rank
  | _, _ => false

/-- A phrase may end before the symbols. -/
def EndsBefore (phrase : Phrase) (rest : List Symbol) : Prop :=
  ∀ symbol ∈ rest.head?, phrase.continues symbol = false

/-- A chain goes on at the operators of its level, and where its last operand does. -/
lemma continues_chain (level : Level) (symbol : Symbol) :
    (chain level).continues symbol =
      ((symbol.operatorAt? level).isSome || level.operand.continues symbol) := by
  cases symbol with
  | operator op => cases op <;> cases level <;> rfl
  | _ => cases level <;> rfl

/-- An operand does not go on at an operator of the level around it. -/
lemma continues_operand_eq_false {level : Level} {op : Operator} (h : op.level = level) :
    level.operand.continues (.operator op) = false := by
  subst h
  cases op <;> rfl

/-- Where a chain may end, so may its last operand. -/
lemma EndsBefore.operand {level : Level} {rest : List Symbol} (h : (chain level).EndsBefore rest) :
    level.operand.EndsBefore rest := by
  intro symbol hsymbol
  have whole := h symbol hsymbol
  rw [continues_chain, Bool.or_eq_false_iff] at whole
  exact whole.2

/-- An operand of a chain may end before the links and what follows them. -/
lemma EndsBefore.operand_append {level : Level} {links : List Link} {rest : List Symbol}
    (h : (chain level).EndsBefore rest) (levels : ∀ link ∈ links, link.op.level = level) :
    level.operand.EndsBefore (links.flatMap Link.symbols ++ rest) := by
  cases links with
  | nil => exact h.operand
  | cons link links =>
      intro symbol hsymbol
      obtain rfl : Symbol.operator link.op = symbol := by
        simpa [Link.symbols] using hsymbol
      exact continues_operand_eq_false (levels link (by simp))

/-- Any phrase may end before a closing parenthesis. -/
lemma endsBefore_rightParen (phrase : Phrase) (rest : List Symbol) :
    phrase.EndsBefore (.rightParen :: rest) := by
  intro symbol hsymbol
  obtain rfl : Symbol.rightParen = symbol := by simpa using hsymbol
  cases phrase <;> rfl

/-- Any phrase may end at the end of the list. -/
lemma endsBefore_nil (phrase : Phrase) : phrase.EndsBefore [] := by
  intro symbol hsymbol
  cases hsymbol

end Phrase

/-! ## Where a phrase begins -/

/-- A phrase begins with a number or with a parenthesis that opens a group. -/
lemma Derives.exists_first {phrase : Phrase} {symbols : List Symbol} {tree : Expr}
    (h : Derives phrase symbols tree) :
    ∃ first later, symbols = first :: later ∧
      ((∃ value, first = .number value) ∨ first = .leftParen) := by
  induction h with
  | number value => exact ⟨.number value, [], rfl, Or.inl ⟨value, rfl⟩⟩
  | group inner ih => exact ⟨.leftParen, _, rfl, Or.inr rfl⟩
  | chain head levels operands ihHead ihOperands =>
      obtain ⟨first, later, rfl, hfirst⟩ := ihHead
      exact ⟨first, _, rfl, hfirst⟩

/-- Any phrase may end where another one begins. -/
lemma Derives.endsBefore {phrase : Phrase} {symbols : List Symbol} {tree : Expr}
    (h : Derives phrase symbols tree) (other : Phrase) (rest : List Symbol) :
    other.EndsBefore (symbols ++ rest) := by
  obtain ⟨first, later, rfl, hfirst⟩ := h.exists_first
  intro symbol hsymbol
  obtain rfl : first = symbol := by simpa using hsymbol
  rcases hfirst with ⟨value, rfl⟩ | rfl <;> cases other <;> rfl

/-! ## Unambiguity -/

/-- Two lists of links of a level at the front of one list, neither of which could go on, are the
same, if this holds of the operands in the first one. -/
lemma links_unique {level : Level} {links links' : List Link} {rest rest' : List Symbol}
    (operands : ∀ link ∈ links, ∀ {written : List Symbol} {tree : Expr} {rest rest' : List Symbol},
      Derives level.operand written tree → link.written ++ rest = written ++ rest' →
        level.operand.EndsBefore rest → level.operand.EndsBefore rest' →
          link.written = written ∧ link.operand = tree ∧ rest = rest')
    (levels : ∀ link ∈ links, link.op.level = level)
    (levels' : ∀ link ∈ links', link.op.level = level)
    (operands' : ∀ link ∈ links', Derives level.operand link.written link.operand)
    (same : links.flatMap Link.symbols ++ rest = links'.flatMap Link.symbols ++ rest')
    (ends : (Phrase.chain level).EndsBefore rest)
    (ends' : (Phrase.chain level).EndsBefore rest') :
    links = links' ∧ rest = rest' := by
  -- a list that has stopped cannot be followed by an operator that would have continued it
  have goesOn : ∀ {op : Operator} {more : List Symbol}, op.level = level →
      ¬ (Phrase.chain level).EndsBefore (.operator op :: more) := by
    intro op more hop h
    have stops := h (.operator op) rfl
    simp [Phrase.continues, hop] at stops
  induction links generalizing links' with
  | nil =>
      cases links' with
      | nil => exact ⟨rfl, same⟩
      | cons link' links' =>
          exfalso
          simp only [List.flatMap_nil, List.nil_append, List.flatMap_cons, Link.symbols,
            List.cons_append] at same
          rw [same] at ends
          exact goesOn (levels' link' (by simp)) ends
  | cons link links ih =>
      cases links' with
      | nil =>
          exfalso
          simp only [List.flatMap_nil, List.nil_append, List.flatMap_cons, Link.symbols,
            List.cons_append] at same
          rw [← same] at ends'
          exact goesOn (levels link (by simp)) ends'
      | cons link' links' =>
          simp only [List.flatMap_cons, Link.symbols, List.cons_append, List.append_assoc,
            List.cons.injEq, Symbol.operator.injEq] at same
          obtain ⟨hop, same⟩ := same
          have levelsTail : ∀ l ∈ links, l.op.level = level := fun l hl => levels l (by simp [hl])
          have levelsTail' : ∀ l ∈ links', l.op.level = level := fun l hl => levels' l (by simp [hl])
          obtain ⟨hwritten, htree, same⟩ := operands link (by simp) (operands' link' (by simp)) same
            (ends.operand_append levelsTail) (ends'.operand_append levelsTail')
          obtain ⟨hlinks, hrest⟩ := ih (fun l hl => operands l (by simp [hl])) levelsTail levelsTail'
            (fun l hl => operands' l (by simp [hl])) same
          have hlink : link = link' := by
            cases link
            cases link'
            simp_all
          exact ⟨by rw [hlink, hlinks], hrest⟩

/-- Two phrases at the front of one list, neither of which could go on, are the same phrase, with the
same tree. -/
lemma Derives.unique_of_append {phrase : Phrase} {symbols : List Symbol} {tree : Expr}
    (h : Derives phrase symbols tree) :
    ∀ {symbols' : List Symbol} {tree' : Expr} {rest rest' : List Symbol},
      Derives phrase symbols' tree' → symbols ++ rest = symbols' ++ rest' →
        phrase.EndsBefore rest → phrase.EndsBefore rest' →
          symbols = symbols' ∧ tree = tree' ∧ rest = rest' := by
  induction h with
  | number value =>
      intro symbols' tree' rest rest' h' same ends ends'
      cases h' with
      | number value' =>
          simp only [List.cons_append, List.nil_append, List.cons.injEq, Symbol.number.injEq] at same
          obtain ⟨rfl, hrest⟩ := same
          exact ⟨rfl, rfl, hrest⟩
      | group inner => simp at same
  | group inner ih =>
      intro symbols' tree' rest rest' h' same ends ends'
      cases h' with
      | number value' => simp at same
      | group inner' =>
          simp only [List.cons_append, List.append_assoc, List.nil_append, List.cons.injEq,
            true_and] at same
          obtain ⟨rfl, htree, hrest⟩ := ih inner' same (Phrase.endsBefore_rightParen _ _)
            (Phrase.endsBefore_rightParen _ _)
          exact ⟨rfl, htree, (List.cons.inj hrest).2⟩
  | chain head levels operands ihHead ihOperands =>
      intro symbols' tree' rest rest' h' same ends ends'
      cases h' with
      | chain head' levels' operands' =>
          rw [List.append_assoc, List.append_assoc] at same
          obtain ⟨rfl, rfl, same⟩ := ihHead head' same (ends.operand_append levels)
            (ends'.operand_append levels')
          obtain ⟨rfl, hrest⟩ := links_unique ihOperands levels levels' operands' same ends ends'
          exact ⟨rfl, rfl, hrest⟩

/-- **The grammar is unambiguous**: symbols derive at most one tree. -/
lemma Derives.unique {phrase : Phrase} {symbols : List Symbol} {tree tree' : Expr}
    (h : Derives phrase symbols tree) (h' : Derives phrase symbols tree') : tree = tree' :=
  (h.unique_of_append h' rfl phrase.endsBefore_nil phrase.endsBefore_nil).2.1

/-! ## Nesting -/

/-- How many more parentheses are opened than closed. -/
def unclosed (symbols : List Symbol) : Int :=
  symbols.count .leftParen - symbols.count .rightParen

/-- Nothing opens nothing. -/
@[simp] lemma unclosed_nil : unclosed [] = 0 := rfl

/-- Unclosed parentheses add up. -/
@[simp] lemma unclosed_append (first second : List Symbol) :
    unclosed (first ++ second) = unclosed first + unclosed second := by
  simp only [unclosed, List.count_append]
  omega

/-- The first symbol counts for itself. -/
lemma unclosed_cons (symbol : Symbol) (symbols : List Symbol) :
    unclosed (symbol :: symbols) = unclosed [symbol] + unclosed symbols :=
  unclosed_append [symbol] symbols

/-- A number opens nothing. -/
@[simp] lemma unclosed_number (value : Binary64) : unclosed [.number value] = 0 := rfl

/-- An operator opens nothing. -/
@[simp] lemma unclosed_operator (op : Operator) : unclosed [.operator op] = 0 := rfl

/-- An opening parenthesis opens one group. -/
@[simp] lemma unclosed_leftParen : unclosed [.leftParen] = 1 := rfl

/-- A closing parenthesis closes one group. -/
@[simp] lemma unclosed_rightParen : unclosed [.rightParen] = -1 := rfl

/-- No beginning of the symbols has more parentheses unclosed than the limit. -/
def NestsWithin (limit : Int) (symbols : List Symbol) : Prop :=
  ∀ beginning, beginning <+: symbols → unclosed beginning ≤ limit

/-- Nothing nests within any limit that is not negative. -/
@[simp] lemma nestsWithin_nil {limit : Int} : NestsWithin limit [] ↔ 0 ≤ limit := by
  simp [NestsWithin]

/-- The nesting of two lists in a row: the second starts with what the first leaves unclosed. -/
lemma nestsWithin_append_iff {limit : Int} {first second : List Symbol} :
    NestsWithin limit (first ++ second) ↔
      NestsWithin limit first ∧ NestsWithin (limit - unclosed first) second := by
  constructor
  · intro h
    refine ⟨fun part hpart => h part (List.prefix_append_of_prefix hpart), fun part hpart => ?_⟩
    have whole := h (first ++ part) ((List.prefix_append_right_inj first).mpr hpart)
    rw [unclosed_append] at whole
    omega
  · rintro ⟨hfirst, hsecond⟩ part ⟨tail, hpart⟩
    rcases List.append_eq_append_iff.mp hpart with ⟨more, rfl, -⟩ | ⟨more, rfl, rfl⟩
    · exact hfirst part (List.prefix_append part more)
    · have inner := hsecond more (List.prefix_append more tail)
      rw [unclosed_append]
      omega

/-- The nesting behind a first symbol. -/
lemma nestsWithin_cons_iff {limit : Int} {symbol : Symbol} {symbols : List Symbol} :
    NestsWithin limit (symbol :: symbols) ↔
      (0 ≤ limit ∧ unclosed [symbol] ≤ limit) ∧ NestsWithin (limit - unclosed [symbol]) symbols := by
  have single : NestsWithin limit [symbol] ↔ 0 ≤ limit ∧ unclosed [symbol] ≤ limit := by
    constructor
    · exact fun h => ⟨h [] (by simp), h [symbol] (by simp)⟩
    · rintro ⟨hnil, hone⟩ part hpart
      rcases List.prefix_cons_iff.mp hpart with rfl | ⟨more, rfl, hmore⟩
      · exact hnil
      · rw [List.prefix_nil.mp hmore]
        exact hone
  rw [← single, ← nestsWithin_append_iff]
  rfl

/-- **A phrase closes every parenthesis that it opens.** -/
lemma Derives.unclosed_eq_zero {phrase : Phrase} {symbols : List Symbol} {tree : Expr}
    (h : Derives phrase symbols tree) : unclosed symbols = 0 := by
  induction h using Derives.link_induction with
  | number value => rfl
  | group inner ih =>
      rw [List.cons_append, unclosed_cons, unclosed_append, ih]
      rfl
  | single h ih => exact ih
  | attach op hleft hright ihLeft ihRight =>
      rw [unclosed_append, unclosed_cons, ihLeft, ihRight]
      rfl

/-- An expression in which no operator of the looser level stands outside all parentheses is a
term. -/
lemma Derives.term_of_enclosed {symbols : List Symbol} {tree : Expr}
    (h : Derives .expression symbols tree)
    (enclosed : ∀ before op behind, symbols = before ++ .operator op :: behind →
      op.level = .sum → unclosed before ≠ 0) : Derives .term symbols tree := by
  cases h with
  | @chain _ first tree links head levels operands =>
      cases links with
      | nil =>
          rw [List.flatMap_nil, List.append_nil]
          exact head
      | cons link links =>
          -- the first link would have its operator outside, for the operand before it is closed
          exact absurd head.unclosed_eq_zero (enclosed first link.op
            (link.written ++ links.flatMap Link.symbols) (by simp [Link.symbols])
            (levels link (by simp)))

/-! ## Symbols that close nothing from outside -/

/-- No beginning of the symbols closes more parentheses than it opens. -/
def Grounded (symbols : List Symbol) : Prop :=
  ∀ beginning, beginning <+: symbols → 0 ≤ unclosed beginning

namespace Grounded

/-- Nothing closes nothing. -/
lemma nil : Grounded [] := by
  intro beginning hbeginning
  obtain rfl := List.prefix_nil.mp hbeginning
  exact Int.le_refl 0

/-- Symbols in a row close nothing from outside if none of them does. -/
lemma append {first second : List Symbol} (h : Grounded first) (h' : Grounded second) :
    Grounded (first ++ second) := by
  rintro beginning ⟨rest, hrest⟩
  rcases List.append_eq_append_iff.mp hrest with ⟨more, rfl, -⟩ | ⟨more, rfl, rfl⟩
  · exact h beginning (List.prefix_append beginning more)
  · have opened := h first (List.prefix_refl first)
    have inner := h' more (List.prefix_append more rest)
    rw [unclosed_append]
    omega

/-- A symbol in front that closes nothing changes nothing. -/
lemma cons {symbol : Symbol} {symbols : List Symbol} (flat : 0 ≤ unclosed [symbol])
    (h : Grounded symbols) : Grounded (symbol :: symbols) := by
  intro beginning hbeginning
  rcases List.prefix_cons_iff.mp hbeginning with rfl | ⟨more, rfl, hmore⟩
  · exact Int.le_refl 0
  · have inner := h more hmore
    rw [unclosed_cons]
    omega

/-- Between parentheses, symbols close nothing from outside if they close all that they open. -/
lemma group {symbols : List Symbol} (h : Grounded symbols) (closed : unclosed symbols = 0) :
    Grounded (.leftParen :: symbols ++ [.rightParen]) := by
  rintro beginning hbeginning
  rcases List.prefix_concat_iff.mp hbeginning with rfl | hinner
  · rw [unclosed_append, unclosed_cons, closed]
    decide
  · exact h.cons (by decide) beginning hinner

end Grounded

/-- **A phrase closes nothing from outside.** -/
lemma Derives.grounded {phrase : Phrase} {symbols : List Symbol} {tree : Expr}
    (h : Derives phrase symbols tree) : Grounded symbols := by
  induction h using Derives.link_induction with
  | number value => exact .cons (Int.le_refl 0) .nil
  | group inner ih => exact ih.group inner.unclosed_eq_zero
  | single h ih => exact ih
  | attach op hleft hright ihLeft ihRight => exact ihLeft.append (ihRight.cons (Int.le_refl 0))

end Calculator
