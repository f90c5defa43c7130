import Calculator.Lexer

/-!
# The parser

Recursive descent over the tokens that a lexer hands out, with one token of lookahead.

    expression  →  term ((+ | -) term)*
    term        →  factor ((* | /) factor)*
    factor      →  number | ( expression )

The two upper rules differ in their operators only, so both are one function, `chain`, at two levels
of precedence; it folds to the left, and `10 / 2 / 5` is `(10 / 2) / 5`. A factor opens a group only
while fewer than `maxNesting` groups are open, so the depth of the recursion has a bound that does
not depend on the source.

Every rule leaves fewer tokens than it found: this is `Reduced.within`, and the recursion ends by it
(`Parser.remaining`). A rule that stops at a fault hands back the parser as it was at that moment
(`Stopped`), for the lexer inside it knows the tokens handed out so far.

`Parser.expression`, `Parser.term` and `Parser.factor` are the three rules as functions of a parser
state. Their equations are `chainOf_eq`, `more_eq` and `factor_eq`: no bound and no proof occurs in
them, and nothing else about the rules need be unfolded.
-/

namespace Calculator

/-- How many groups may be open at once. -/
def maxNesting : Int := 200

/-- The state of a parser. -/
structure Parser where
  /-- Where the tokens come from. -/
  lexer : Lexer
  /-- The token that is looked at and not yet consumed. -/
  current : Token
  /-- How many groups are open. -/
  nesting : Int
  /-- Whether tokens may follow a complete expression. -/
  allowTrailing : Bool

/-- A fault, and the parser at the moment when it was met. -/
structure Stopped where
  /-- What was met, and where. -/
  fault : Fault
  /-- The parser at that moment. -/
  parser : Parser

/-- A level of precedence. -/
inductive Level
  /-- Plus and minus, which bind loosely. -/
  | sum
  /-- Times and divide, which bind tightly. -/
  | product
deriving DecidableEq

/-- How many levels bind more tightly. -/
def Level.rank : Level → Nat
  | sum => 1
  | product => 0

/-- The level at which an operator binds. -/
def Operator.level : Operator → Level
  | plus | minus => .sum
  | times | divide => .product

/-- The operator that a symbol is, if it binds at the level. -/
def Symbol.operatorAt? (level : Level) : Symbol → Option Operator
  | operator op => if op.level = level then some op else none
  | _ => none

/-- The end of the input is no operator. -/
@[simp] theorem Symbol.operatorAt?_endOfInput (level : Level) :
    Symbol.operatorAt? level .endOfInput = none := rfl

namespace Parser

/-! ## Consuming a token -/

/-- A bound on the tokens that can still be consumed: one for the current token, unless it is the
end, and one for every character behind the cursor of the lexer. -/
def remaining (p : Parser) : Nat :=
  p.lexer.rest.length + if p.current.isEnd then 0 else 1

/-- The parser with the next token in place of the current one. -/
def advance (p : Parser) : Except Stopped Parser :=
  match p.lexer.next with
  | (.ok token, lexer) => .ok { p with lexer := lexer, current := token }
  | (.error fault, lexer) => .error ⟨fault, { p with lexer := lexer }⟩

/-- A token that is not the end is used up. -/
theorem remaining_of_advance {p q : Parser} (h : p.advance = .ok q)
    (notEnd : p.current.isEnd = false) : q.remaining < p.remaining := by
  unfold advance at h
  split at h
  · rename_i token lexer hnext
    cases h
    have shorter := Lexer.length_rest_of_next hnext
    simp only [remaining, notEnd]
    split at shorter
    · rename_i hend
      simp only [hend, shorter]
      simp
    · rename_i hend
      simp only [hend]
      simp only [Bool.false_eq_true, if_false]
      omega
  · cases h

/-- A complaint about the current token. -/
def complain (p : Parser) (complaint : Complaint) : Stopped :=
  ⟨⟨.misplaced complaint p.current.symbol, p.current.pos⟩, p⟩

/-- The operator that the current token is, if it binds at the level. -/
def operatorAt? (p : Parser) (level : Level) : Option Operator :=
  p.current.symbol.operatorAt? level

/-- An operator is not the end of the input. -/
theorem isEnd_eq_false_of_operatorAt? {p : Parser} {level : Level} {op : Operator}
    (h : p.operatorAt? level = some op) : p.current.isEnd = false := by
  unfold operatorAt? at h
  simp only [Token.isEnd, decide_eq_false_iff_not]
  intro hs
  rw [hs] at h
  cases h

end Parser

/-! ## The rules -/

/-- What a rule hands back: a tree, and a parser with less than `bound` remaining. -/
structure Reduced (bound : Nat) where
  /-- The tree that was read. -/
  tree : Expr
  /-- The parser behind it. -/
  parser : Parser
  /-- Something was consumed. -/
  within : parser.remaining < bound

namespace Reduced

/-- The tree and the parser, without the bound. -/
def pair {bound : Nat} (r : Reduced bound) : Expr × Parser :=
  (r.tree, r.parser)

end Reduced

namespace Parser

mutual

/-- Operands of a level with operators of that level between them, folded to the left. -/
def chain (level : Level) (p : Parser) : Except Stopped (Reduced p.remaining) :=
  match operand level p with
  | .error stopped => .error stopped
  | .ok first => chainRest level first.tree first.parser first.within
termination_by (p.remaining, 2 * level.rank + 2)
decreasing_by
  · exact Prod.Lex.right _ (Nat.lt_succ_self _)
  · exact Prod.Lex.left _ _ first.within

/-- The rest of a chain behind its left part: while an operator of the level follows, it takes one
more operand. -/
def chainRest (level : Level) (left : Expr) (p : Parser) {bound : Nat}
    (within : p.remaining < bound) : Except Stopped (Reduced bound) :=
  match hop : p.operatorAt? level with
  | none => .ok ⟨left, p, within⟩
  | some op =>
      match hadvance : p.advance with
      | .error stopped => .error stopped
      | .ok q =>
          have shorter : q.remaining < p.remaining :=
            remaining_of_advance hadvance (isEnd_eq_false_of_operatorAt? hop)
          match operand level q with
          | .error stopped => .error stopped
          | .ok right =>
              chainRest level (.node op left right.tree) right.parser
                (Nat.lt_trans (Nat.lt_trans right.within shorter) within)
termination_by (p.remaining, 0)
decreasing_by
  · exact Prod.Lex.left _ _ shorter
  · exact Prod.Lex.left _ _ (Nat.lt_trans right.within shorter)

/-- An operand of a level: a chain of the next level, or a factor. -/
def operand (level : Level) (p : Parser) : Except Stopped (Reduced p.remaining) :=
  match level with
  | .sum => chain .product p
  | .product => group p
termination_by (p.remaining, 2 * level.rank + 1)
decreasing_by all_goals exact Prod.Lex.right _ (by decide)

/-- A number, or an expression in parentheses. -/
def group (p : Parser) : Except Stopped (Reduced p.remaining) :=
  match hsymbol : p.current.symbol with
  | .number value =>
      match hadvance : p.advance with
      | .error stopped => .error stopped
      | .ok q =>
          .ok ⟨.leaf value, q, remaining_of_advance hadvance (by simp [Token.isEnd, hsymbol])⟩
  | .leftParen =>
      if maxNesting ≤ p.nesting then .error (p.complain .nestedTooDeeply)
      else
        match hadvance : advance { p with nesting := p.nesting + 1 } with
        | .error stopped => .error stopped
        | .ok q =>
            have opened : q.remaining < p.remaining :=
              remaining_of_advance (p := { p with nesting := p.nesting + 1 }) hadvance
                (by simp [Token.isEnd, hsymbol])
            match chain .sum q with
            | .error stopped => .error stopped
            | .ok inner =>
                if hclose : inner.parser.current.symbol = .rightParen then
                  match hadvance' : inner.parser.advance with
                  | .error stopped => .error stopped
                  | .ok r =>
                      have closed : r.remaining < inner.parser.remaining :=
                        remaining_of_advance hadvance' (by simp [Token.isEnd, hclose])
                      .ok ⟨inner.tree, { r with nesting := r.nesting - 1 },
                        Nat.lt_trans closed (Nat.lt_trans inner.within opened)⟩
                else .error (inner.parser.complain .missingParenthesis)
  | _ => .error (p.complain .unexpected)
termination_by (p.remaining, 0)
decreasing_by exact Prod.Lex.left _ _ opened

end

/-! ## The rules as functions of a parser state -/

/-- A chain of a level: a tree and the parser behind it, or the place where it stopped. -/
def chainOf (level : Level) (p : Parser) : Except Stopped (Expr × Parser) :=
  (chain level p).map Reduced.pair

/-- An operand of a level. -/
def operandOf (level : Level) (p : Parser) : Except Stopped (Expr × Parser) :=
  (operand level p).map Reduced.pair

/-- What follows the left part of a chain. -/
def more (level : Level) (left : Expr) (p : Parser) : Except Stopped (Expr × Parser) :=
  (chainRest level left p (Nat.lt_succ_self p.remaining)).map Reduced.pair

/-- The rule for an expression. -/
def expression (p : Parser) : Except Stopped (Expr × Parser) :=
  chainOf .sum p

/-- The rule for a term. -/
def term (p : Parser) : Except Stopped (Expr × Parser) :=
  chainOf .product p

/-- The rule for a factor. -/
def factor (p : Parser) : Except Stopped (Expr × Parser) :=
  (group p).map Reduced.pair

/-- One step of a rest of a chain, whatever bound it is held to: it ends where no operator of the
level follows, and otherwise takes the operator and one operand more. -/
theorem map_pair_chainRest (level : Level) (left : Expr) (p : Parser) {bound : Nat}
    (within : p.remaining < bound) :
    (chainRest level left p within).map Reduced.pair =
      match p.operatorAt? level with
      | none => .ok (left, p)
      | some op =>
          match p.advance with
          | .error stopped => .error stopped
          | .ok q =>
              match operandOf level q with
              | .error stopped => .error stopped
              | .ok (right, r) => more level (.node op left right) r := by
  induction hn : p.remaining using Nat.strongRecOn generalizing left p bound with
  | ind n ih =>
      subst hn
      rw [chainRest]
      split
      · rename_i hop
        simp only [hop]
        rfl
      · rename_i op hop
        simp only [hop]
        split
        · rename_i stopped hadvance
          simp only [hadvance]
          rfl
        · rename_i q hadvance
          simp only [hadvance, operandOf]
          cases operand level q with
          | error stopped => rfl
          | ok right =>
              have shorter : q.remaining < p.remaining :=
                remaining_of_advance hadvance (isEnd_eq_false_of_operatorAt? hop)
              have less := Nat.lt_trans right.within shorter
              exact (ih _ less _ _ _ rfl).trans (ih _ less _ _ _ rfl).symm

/-- A rest of a chain ends where no operator of the level follows; otherwise it takes the operator
and one operand more. -/
theorem more_eq (level : Level) (left : Expr) (p : Parser) :
    more level left p =
      match p.operatorAt? level with
      | none => .ok (left, p)
      | some op =>
          match p.advance with
          | .error stopped => .error stopped
          | .ok q =>
              match operandOf level q with
              | .error stopped => .error stopped
              | .ok (right, r) => more level (.node op left right) r :=
  map_pair_chainRest level left p _

/-- A chain is an operand and the rest behind it. -/
theorem chainOf_eq (level : Level) (p : Parser) :
    chainOf level p =
      match operandOf level p with
      | .error stopped => .error stopped
      | .ok (first, q) => more level first q := by
  rw [chainOf, chain, operandOf]
  cases operand level p with
  | error stopped => rfl
  | ok first =>
      exact (map_pair_chainRest level first.tree first.parser _).trans
        (more_eq level first.tree first.parser).symm

/-- The operands of the looser level are terms. -/
theorem operandOf_sum (p : Parser) : operandOf .sum p = p.term := by
  rw [operandOf, operand, term, chainOf]

/-- The operands of the tighter level are factors. -/
theorem operandOf_product (p : Parser) : operandOf .product p = p.factor := by
  rw [operandOf, operand, factor]

/-- A factor is a number, or an expression in parentheses. -/
theorem factor_eq (p : Parser) :
    p.factor =
      match p.current.symbol with
      | .number value =>
          match p.advance with
          | .error stopped => .error stopped
          | .ok q => .ok (.leaf value, q)
      | .leftParen =>
          if maxNesting ≤ p.nesting then .error (p.complain .nestedTooDeeply)
          else
            match advance { p with nesting := p.nesting + 1 } with
            | .error stopped => .error stopped
            | .ok q =>
                match q.expression with
                | .error stopped => .error stopped
                | .ok (inner, r) =>
                    if r.current.symbol = .rightParen then
                      match r.advance with
                      | .error stopped => .error stopped
                      | .ok s => .ok (inner, { s with nesting := s.nesting - 1 })
                    else .error (r.complain .missingParenthesis)
      | _ => .error (p.complain .unexpected) := by
  rw [factor, group]
  split
  · rename_i value hsymbol
    simp only [hsymbol]
    split <;> rename_i hadvance <;> simp only [hadvance] <;> rfl
  · rename_i hsymbol
    simp only [hsymbol]
    split
    · rfl
    · split
      · rename_i hadvance
        simp only [hadvance]
        rfl
      · rename_i q hadvance
        simp only [hadvance, expression, chainOf]
        cases chain .sum q with
        | error stopped => rfl
        | ok inner =>
            by_cases hclose : inner.parser.current.symbol = .rightParen
            · simp only [hclose, ↓reduceDIte, Except.map, Reduced.pair, ↓reduceIte]
              split <;> rename_i hmatch
              · split at hmatch <;> rename_i hadvance' <;> cases hmatch
                simp only [hadvance']
              · split at hmatch <;> rename_i hadvance' <;> cases hmatch
                simp only [hadvance']
            · simp only [hclose, ↓reduceDIte, Except.map, Reduced.pair, ↓reduceIte]
  · rename_i hnumber hparen
    split
    · rename_i value hsymbol
      exact absurd hsymbol (hnumber value)
    · rename_i hsymbol
      exact absurd hsymbol hparen
    · rfl

/-! ## Whole inputs -/

/-- A parser at the token that a lexer hands out next, with no group open; or the fault that the
lexer meets, and the lexer after that. -/
def start (lexer : Lexer) (allowTrailing : Bool) : Except (Fault × Lexer) Parser :=
  match lexer.next with
  | (.ok token, lexer) => .ok ⟨lexer, token, 0, allowTrailing⟩
  | (.error fault, lexer) => .error (fault, lexer)

/-- An expression, with nothing behind it unless trailing tokens are allowed. -/
def parse (p : Parser) : Except Stopped (Expr × Parser) :=
  match p.expression with
  | .error stopped => .error stopped
  | .ok (expr, q) =>
      if q.current.isEnd || q.allowTrailing then .ok (expr, q) else .error (q.complain .trailing)

end Parser

/-- What became of a source: the expression or the fault, and the lexer, which knows the tokens that
were handed out. -/
structure Parsed where
  /-- The expression, or the first fault. -/
  outcome : Except Fault Expr
  /-- The lexer at the end. -/
  lexer : Lexer

/-- The expression that a source holds. -/
def parseSource (source : String) (allowTrailing : Bool) : Parsed :=
  match Parser.start (.ofSource source) allowTrailing with
  | .error (fault, lexer) => ⟨.error fault, lexer⟩
  | .ok p =>
      match p.parse with
      | .error stopped => ⟨.error stopped.fault, stopped.parser.lexer⟩
      | .ok (expr, q) => ⟨.ok expr, q.lexer⟩

end Calculator
