import Mathlib.Data.List.Forall2
import Calculator.Proofs.Lexer.Cut
import Calculator.Proofs.Parser.Record

/-!
# Expressions in a row

A parser that allows trailing tokens may be asked for one expression after another
(`Parser.parseTimes`). It keeps the token that it has looked at, and no group is open between two
calls, so each call goes on where the one before it stopped.

* Texts in a row, with blanks between them, have their tokens in a row (`exists_row_of_joined`):
  expressions one after another, and then the end of the input (`Row`).
* An expression ends where the next one begins, for no expression begins with an operator. So the
  calls read the expressions of a row one by one (`Parser.parseTimes_of_row`).

`Parser.parseTimes_of_joined` puts the two together: each text is read as it is read on its own.
-/

namespace Calculator

/-! ## Texts in a row -/

/-- Texts one after another, with blanks, and at least one of them, between each two. -/
inductive Joined : List String → String → Prop
  /-- One text alone. -/
  | single (text : String) : Joined [text] text
  /-- A text, blanks, and the others behind them. -/
  | cons {text gap behind : String} {texts : List String} (nonempty : gap ≠ "")
      (isGap : IsGap gap.toList) (later : Joined texts behind) :
      Joined (text :: texts) (text ++ (gap ++ behind))

/-- Tokens that are expressions within the limit, one after another, and then the end of the
input. -/
inductive Row : List Token → List Expr → Prop
  /-- The last expression, before the end. -/
  | last {taken : List Token} {tree : Expr} {stop : Nat}
      (derives : Derives .expression (taken.map Token.symbol) tree)
      (nests : NestsWithin 200 (taken.map Token.symbol)) :
      Row (taken ++ [⟨.endOfInput, stop⟩]) [tree]
  /-- An expression before others. -/
  | cons {taken behind : List Token} {tree : Expr} {trees : List Expr}
      (derives : Derives .expression (taken.map Token.symbol) tree)
      (nests : NestsWithin 200 (taken.map Token.symbol)) (later : Row behind trees) :
      Row (taken ++ behind) (tree :: trees)

/-- Blanks stand apart from what is before them. -/
lemma apart_append_of_isGap {gap : List Char} (nonempty : gap ≠ []) (isGap : IsGap gap)
    (first second : List Char) : Apart first (gap ++ second) := by
  right
  obtain ⟨c, gap, rfl⟩ := List.exists_cons_of_ne_nil nonempty
  have blank := isGap c (by simp)
  rw [List.cons_append, List.head?_cons, Option.any_some, Bool.eq_false_iff]
  intro numeral
  rw [isBlank_eq_false_of_isNumeralChar numeral] at blank
  cases blank

/-- A text that is an expression has the tokens of one, wherever it begins. -/
lemma exists_tokensAt_of_parseExpr {text : String} {tree : Expr}
    (h : parseExpr text false = .ok tree) (pos : Nat) :
    ∃ taken : List Token,
      tokensAt pos text.toList = (taken ++ [⟨.endOfInput, text.length + pos⟩], none) ∧
        Derives .expression (taken.map Token.symbol) tree ∧
          NestsWithin 200 (taken.map Token.symbol) := by
  obtain ⟨tokens, htokens, derives, nests⟩ := derives_of_parseExpr h
  have symbols : (tokens.map (Token.shift pos)).map Token.symbol = tokens.map Token.symbol := by
    rw [List.map_map]
    rfl
  refine ⟨tokens.map (Token.shift pos), ?_, symbols ▸ derives, symbols ▸ nests⟩
  rw [tokenize_eq_tokensAt] at htokens
  have moved := tokensAt_add 0 pos text.toList
  rw [Nat.zero_add, htokens, List.map_append] at moved
  exact moved

/-- **Expressions that stand in a row have their tokens in a row.** -/
lemma exists_row_of_joined {texts : List String} {trees : List Expr} {source : String}
    (joined : Joined texts source)
    (accepted : List.Forall₂ (fun text tree => parseExpr text false = .ok tree) texts trees)
    (pos : Nat) : ∃ tokens, tokensAt pos source.toList = (tokens, none) ∧ Row tokens trees := by
  induction joined generalizing pos trees with
  | single text =>
      cases accepted with
      | cons hparse rest =>
          cases rest
          obtain ⟨taken, htaken, derives, nests⟩ := exists_tokensAt_of_parseExpr hparse pos
          exact ⟨_, htaken, .last derives nests⟩
  | @cons text gap behind texts nonempty isGap later ih =>
      cases accepted with
      | cons hparse rest =>
          obtain ⟨taken, htaken, derives, nests⟩ := exists_tokensAt_of_parseExpr hparse pos
          obtain ⟨tokens, htokens, row⟩ := ih rest (pos + text.toList.length + gap.toList.length)
          refine ⟨taken ++ tokens, ?_, .cons derives nests row⟩
          have apart : Apart text.toList (gap.toList ++ behind.toList) :=
            apart_append_of_isGap (by simpa using nonempty) isGap _ _
          rw [String.toList_append, String.toList_append, tokensAt_append htaken apart,
            tokensAt_gap isGap, htokens]

/-- An expression may end where a row begins. -/
lemma Row.endsBefore {tokens : List Token} {trees : List Expr} (h : Row tokens trees) :
    Phrase.expression.EndsBefore (tokens.map Token.symbol) := by
  cases h with
  | last derives nests =>
      rw [List.map_append]
      exact derives.endsBefore _ _
  | cons derives nests later =>
      rw [List.map_append]
      exact derives.endsBefore _ _

/-- A row is not empty. -/
lemma Row.ne_nil {tokens : List Token} {trees : List Expr} (h : Row tokens trees) :
    tokens ≠ [] := by
  induction h with
  | last derives nests => simp
  | cons derives nests later ih => simp [ih]

/-! ## Calls in a row -/

namespace Parser

/-- A number of calls, each of which goes on where the one before it stopped: the trees that they
return, and the parser behind the last one. -/
def parseTimes : Nat → Parser → Except Stopped (List Expr × Parser)
  | 0, p => .ok ([], p)
  | n + 1, p =>
      match p.parse with
      | .error stopped => .error stopped
      | .ok (tree, q) =>
          match parseTimes n q with
          | .error stopped => .error stopped
          | .ok (trees, r) => .ok (tree :: trees, r)

/-- Between two expressions no group is open, and tokens may follow. -/
structure Rests (p : Parser) : Prop where
  /-- No group is open. -/
  nesting : p.nesting = 0
  /-- Tokens may follow an expression. -/
  allowTrailing : p.allowTrailing = true

/-- **One call** reads the expression ahead, if it may end before what stands behind it, and nothing
but the expression. -/
lemma parse_of_derives {p : Parser} (rests : p.Rests) {taken behind : List Token} {tree : Expr}
    {fault : Option Fault} (hahead : p.ahead = (taken ++ behind, fault))
    (derives : Derives .expression (taken.map Token.symbol) tree)
    (nests : NestsWithin 200 (taken.map Token.symbol)) (notLast : behind ≠ [])
    (ends : Phrase.expression.EndsBefore (behind.map Token.symbol)) :
    ∃ q, p.parse = .ok (tree, q) ∧ q.ahead = (behind, fault) ∧ q.Rests ∧ ∃ run, Run p run q := by
  obtain ⟨q, hread, hq⟩ := read_complete derives p taken behind fault rfl hahead notLast ends
    ((room_of_start rests.nesting).symm ▸ nests)
  obtain ⟨run, hrun, took⟩ := exists_run_of_read hread
  have trailing : q.allowTrailing = true := took.allowTrailing.trans rests.allowTrailing
  have hexpression : p.expression = .ok (tree, q) := hread
  refine ⟨q, ?_, hq, ⟨took.nesting.trans rests.nesting, trailing⟩, run, hrun⟩
  simp only [parse, hexpression, trailing, Bool.or_true, if_true]

/-- **Calls in a row** read the expressions of a row, one each, and come to the end of the input. -/
lemma parseTimes_of_row {tokens : List Token} {trees : List Expr} (row : Row tokens trees) :
    ∀ p : Parser, p.Rests → p.ahead = (tokens, none) →
      ∃ q, p.parseTimes trees.length = .ok (trees, q) ∧ q.current.isEnd = true ∧ q.Rests ∧
        ∃ run, Run p run q := by
  induction row with
  | @last taken tree stop derives nests =>
      intro p rests hahead
      have ends : Phrase.expression.EndsBefore [.endOfInput] := by
        intro symbol hsymbol
        obtain rfl : Symbol.endOfInput = symbol := by simpa using hsymbol
        rfl
      obtain ⟨q, hparse, hq, restsQ, hrun⟩ := parse_of_derives rests hahead derives nests
        (List.cons_ne_nil _ _) ends
      refine ⟨q, ?_, ?_, restsQ, hrun⟩
      · simp only [List.length_singleton, parseTimes, hparse]
      · rw [current_of_ahead hq]
        rfl
  | @cons taken behind tree trees derives nests later ih =>
      intro p rests hahead
      obtain ⟨q, hparse, hq, restsQ, run, hrun⟩ := parse_of_derives rests hahead derives nests
        later.ne_nil later.endsBefore
      obtain ⟨r, htimes, isEnd, restsR, run', hrun'⟩ := ih q restsQ hq
      refine ⟨r, ?_, isEnd, restsR, run ++ run', hrun.trans hrun'⟩
      simp only [List.length_cons, parseTimes, hparse, htimes]

/-- **No lookahead is lost between calls.** A parser that allows trailing tokens, on expressions in a
row with blanks between them, reads in as many calls each of them as it is read on its own. Then it
is at the end of the input, no group is open, and its lexer has recorded all tokens of the source. -/
theorem parseTimes_of_joined {texts : List String} {trees : List Expr} {source : String}
    (joined : Joined texts source)
    (accepted : List.Forall₂ (fun text tree => parseExpr text false = .ok tree) texts trees) :
    ∃ p q, start (.ofSource source) true = .ok p ∧
      p.parseTimes texts.length = .ok (trees, q) ∧ q.current.isEnd = true ∧ q.nesting = 0 ∧
        tokenize source = (q.lexer.recorded.toList, none) := by
  obtain ⟨tokens, htokens, row⟩ := exists_row_of_joined joined accepted 0
  rw [← tokenize_eq_tokensAt] at htokens
  cases hstart : start (.ofSource source) true with
  | error stopped =>
      obtain ⟨fault, lexer⟩ := stopped
      have failed := tokens_of_start_error hstart
      rw [← tokenize, htokens] at failed
      cases (Prod.mk.inj failed).2
  | ok p =>
      obtain ⟨hahead, hnesting, htrailing⟩ := ahead_of_start hstart
      rw [← tokenize, htokens] at hahead
      obtain ⟨q, htimes, isEnd, rests, run, hrun⟩ :=
        parseTimes_of_row row p ⟨hnesting, htrailing⟩ hahead
      have logged := (Logged.of_start hstart).run hrun
      refine ⟨p, q, rfl, accepted.length_eq ▸ htimes, isEnd, rests.nesting, ?_⟩
      rw [logged.stream, ahead_of_isEnd isEnd, logged.recorded]

/-- A number and a group behind it are two expressions, not one. -/
theorem parseTimes_of_joined_group :
    Joined ["2", "(3)"] ("2" ++ ("\n" ++ "(3)")) ∧
      List.Forall₂ (fun text tree => parseExpr text false = .ok tree) ["2", "(3)"]
        [.leaf (.ofDecimal false ⟨2, 0⟩), .leaf (.ofDecimal false ⟨3, 0⟩)] ∧
      ∃ p q, start (.ofSource ("2" ++ ("\n" ++ "(3)"))) true = .ok p ∧
        p.parseTimes 2 =
          .ok ([.leaf (.ofDecimal false ⟨2, 0⟩), .leaf (.ofDecimal false ⟨3, 0⟩)], q) ∧
        q.current.isEnd = true ∧ q.nesting = 0 ∧
          tokenize ("2" ++ ("\n" ++ "(3)")) = (q.lexer.recorded.toList, none) := by
  have scanOpen : scan ['(', '3', ')'] = .lexeme 0 ['('] ['3', ')'] := rfl
  have scanThree : scan ['3', ')'] = .lexeme 0 ['3'] [')'] := rfl
  have scanClose : scan [')'] = .lexeme 0 [')'] [] := rfl
  have two : tokenize "2" =
      ([⟨.number (.ofDecimal false ⟨2, 0⟩), 0⟩, ⟨.endOfInput, 1⟩], none) :=
    tokenize_numeral rfl (List.all_eq_true.mp rfl)
  have group : tokenize "(3)" =
      ([⟨.leftParen, 0⟩, ⟨.number (.ofDecimal false ⟨3, 0⟩), 1⟩, ⟨.rightParen, 2⟩,
        ⟨.endOfInput, 3⟩], none) := by
    refine (tokenize_eq_tokensAt _).trans ((tokensAt_of_symbol scanOpen rfl 0).trans ?_)
    rw [tokensAt_of_symbol scanThree rfl, tokensAt_of_symbol scanClose rfl,
      tokensAt_of_finished rfl]
    rfl
  have acceptedTwo : parseExpr "2" false = .ok (.leaf (.ofDecimal false ⟨2, 0⟩)) :=
    @parseExpr_of_derives _ _ [⟨.number _, 0⟩] two (.single (.single (.number _)))
      (by simp [nestsWithin_cons_iff])
  have acceptedGroup : parseExpr "(3)" false = .ok (.leaf (.ofDecimal false ⟨3, 0⟩)) :=
    @parseExpr_of_derives _ _ [⟨.leftParen, 0⟩, ⟨.number _, 1⟩, ⟨.rightParen, 2⟩] group
      (.single (.single (.group (.single (.single (.number _))))))
      (by simp [nestsWithin_cons_iff])
  have joined : Joined ["2", "(3)"] ("2" ++ ("\n" ++ "(3)")) :=
    .cons (by decide) (by simp [IsGap]) (.single "(3)")
  have accepted : List.Forall₂ (fun text tree => parseExpr text false = .ok tree) ["2", "(3)"]
      [.leaf (.ofDecimal false ⟨2, 0⟩), .leaf (.ofDecimal false ⟨3, 0⟩)] :=
    .cons acceptedTwo (.cons acceptedGroup .nil)
  exact ⟨joined, accepted, parseTimes_of_joined joined accepted⟩

end Parser

end Calculator
