import Calculator.Expr.Basic
import Calculator.Text.Quoted

/-!
# Tokens

A token is a symbol of the expression language and the position of its first character. The symbols
are numbers, the four operators, the two parentheses and the end of the input, which stands behind
the last character.
-/

namespace Calculator

/-- A symbol of the expression language. -/
inductive Symbol
  /-- A number, by its value. -/
  | number (value : Binary64)
  /-- An operator. -/
  | operator (op : Operator)
  /-- The parenthesis that opens a group. -/
  | leftParen
  /-- The parenthesis that closes a group. -/
  | rightParen
  /-- The end of the input. -/
  | endOfInput
deriving DecidableEq

namespace Symbol

/-- The name of the kind of a symbol. -/
def kindName : Symbol → String
  | number _ => "number"
  | operator .plus => "plus"
  | operator .minus => "minus"
  | operator .times => "multiply"
  | operator .divide => "divide"
  | leftParen => "left_paren"
  | rightParen => "right_paren"
  | endOfInput => "end"

/-- What a symbol stands for, as a text: the plain form of a number, and the symbol itself
otherwise. -/
def text : Symbol → String
  | number value => value.text
  | operator op => op.text
  | leftParen => "("
  | rightParen => ")"
  | endOfInput => ""

/-- A symbol as it is shown in messages: a number in plain form, any other in quotation marks. -/
def shown : Symbol → String
  | number value => value.text
  | symbol => Text.quote symbol.text

/-- The symbol of a character that stands for itself. -/
def ofChar? (c : Char) : Option Symbol :=
  if c = '(' then some leftParen
  else if c = ')' then some rightParen
  else (Operator.ofSymbol? c).map operator

end Symbol

/-- A symbol at a position of the input. -/
structure Token where
  /-- The symbol. -/
  symbol : Symbol
  /-- How many characters stand before it. -/
  pos : Nat
deriving DecidableEq

namespace Token

/-- Whether the token is the end of the input. -/
def isEnd (t : Token) : Bool :=
  t.symbol = .endOfInput

/-- A token in full, for lists of tokens and for logs. -/
def shown (t : Token) : String :=
  "Token(" ++ t.symbol.kindName ++ ", " ++ t.symbol.shown ++ ", pos=" ++
    Decimal.natural t.pos ++ ")"

end Token

end Calculator
