import Calculator.Decimal.Basic
import Calculator.Text.Blank

/-!
# Reading numbers

Two grammars of number texts, the second an extension of the first.

* A **numeral** of the expression language is a run of digits and points. It denotes a number when
  it has at least one digit and at most one point (`Decimal.ofNumeral?`): `12`, `1.5`, `.5` and `5.`
  do, `.` and `1.2.3` do not.
* A **number text**, in which values are written outside an expression, may also have a sign, a
  power of ten after `e`, and the words `inf`, `infinity` and `nan` in letters of either case
  (`Binary64.ofText?`).

Both are read exactly and rounded once, however long they are.
-/

namespace Calculator

namespace Decimal

/-- The decimal with the given digits before and after its point. -/
def ofParts (whole fraction : List Char) : Decimal :=
  ⟨ofDigits (whole ++ fraction), -(fraction.length : Int)⟩

/-- The number that a numeral denotes: digits with at most one point among them, and at least one
digit. -/
def ofNumeral? (text : List Char) : Option Decimal :=
  let whole := text.takeWhile Char.isDigit
  match text.dropWhile Char.isDigit with
  | [] => if whole.isEmpty then none else some (ofParts whole [])
  | point :: fraction =>
      if point = '.' ∧ fraction.all Char.isDigit ∧ ¬(whole.isEmpty ∧ fraction.isEmpty) then
        some (ofParts whole fraction)
      else none

/-- The whole number that digits after an optional sign denote. -/
def signed? (text : List Char) : Option Int :=
  let (negative, digits) : Bool × List Char := match text with
    | '-' :: rest => (true, rest)
    | '+' :: rest => (false, rest)
    | _ => (false, text)
  if digits.isEmpty || !digits.all Char.isDigit then none
  else if negative then some (-(ofDigits digits : Int))
  else some (ofDigits digits)

/-- The number that a numeral denotes, with a power of ten after an `e` in either case. -/
def ofScientific? (text : List Char) : Option Decimal :=
  let isExponentMark (c : Char) : Bool := c = 'e' || c = 'E'
  match text.dropWhile fun c => !isExponentMark c with
  | [] => ofNumeral? text
  | _ :: power => do
      let mantissa ← ofNumeral? (text.takeWhile fun c => !isExponentMark c)
      let shift ← signed? power
      some ⟨mantissa.coefficient, mantissa.exponent + shift⟩

end Decimal

namespace Binary64

/-- The number that a text without a sign denotes, with the sign given. -/
def ofUnsigned? (negative : Bool) (text : List Char) : Option Binary64 :=
  let word := String.ofList (text.map Char.toLower)
  if word = "nan" then some .nan
  else if word = "inf" || word = "infinity" then some (.infinity negative)
  else (Decimal.ofScientific? text).map (ofDecimal negative)

/-- The number that a text denotes, after an optional sign. -/
def ofText? (text : List Char) : Option Binary64 :=
  match text with
  | '-' :: rest => ofUnsigned? true rest
  | '+' :: rest => ofUnsigned? false rest
  | _ => ofUnsigned? false text

end Binary64

/-- Whether two underscores stand side by side. -/
def Text.hasDoubleSeparator (text : List Char) : Bool :=
  (text.zip (text.drop 1)).any fun pair => pair.1 = '_' && pair.2 = '_'

/-- A text in which underscores may stand singly between other characters: the text without them,
or `none` if one stands elsewhere. -/
def Text.withoutSeparators? (text : List Char) : Option (List Char) :=
  if text.head? = some '_' || text.getLast? = some '_' || hasDoubleSeparator text then none
  else some (text.filter (· ≠ '_'))

end Calculator
