import Calculator.Binary64.Basic
import Calculator.Decimal.Shortest

/-!
# How numbers are written

Three written forms of a binary64 number.

* The **plain form** (`Binary64.text`) has the digits of the shortest decimal that reads back.
  They are written in positional form, with at least one digit on either side of the point, while
  the power of ten of the first digit is at least `-4` and below `16`; otherwise one digit stands
  before the point, and a power of ten with a sign and at least two digits follows the letter `e`.
* The **short form** (`Binary64.shortForm`) is the plain form without a final `.0`.
* The **fixed form** (`Binary64.fixedForm`) has a given number of decimal places. The exact value is
  rounded at the last of them, ties to even, and the sign stays even where only zeros are left.

Infinities and what is not a number are words in all three.
-/

namespace Calculator

namespace Decimal

/-- The least power of ten of the first digit that is written in positional form. -/
def leastPositional : Int := -4

/-- The least power of ten of the first digit that is too large for the positional form. -/
def firstExponential : Int := 16

/-- Digits with the point after the first `point` of them; zeros fill what is missing, and one digit
stands on either side of the point. -/
def positional (digits : List Char) (point : Int) : List Char :=
  if point ≤ 0 then '0' :: '.' :: (List.replicate (-point).toNat '0' ++ digits)
  else if (digits.length : Int) ≤ point then
    digits ++ List.replicate (point.toNat - digits.length) '0' ++ ['.', '0']
  else digits.take point.toNat ++ '.' :: digits.drop point.toNat

/-- The power of ten of the exponential form: the letter, a sign and at least two digits. -/
def powerMark (power : Int) : List Char :=
  let magnitude := digits power.natAbs
  let padded := if magnitude.length < 2 then '0' :: magnitude else magnitude
  'e' :: (if power < 0 then '-' else '+') :: padded

/-- Digits of which the first has the given power of ten, in exponential form. -/
def exponential (digits : List Char) (power : Int) : List Char :=
  match digits with
  | [] => powerMark power
  | [digit] => digit :: powerMark power
  | digit :: rest => digit :: '.' :: rest ++ powerMark power

/-- The power of ten of the first digit. -/
def leadingPower (d : Decimal) : Int :=
  d.exponent + (digits d.coefficient).length - 1

/-- The plain form of a decimal. -/
def plainForm (d : Decimal) : List Char :=
  let digits := digits d.coefficient
  let power := d.leadingPower
  if leastPositional ≤ power ∧ power < firstExponential then positional digits (power + 1)
  else exponential digits power

end Decimal

/-- The sign of a number: nothing, or a minus sign. -/
def signMark (negative : Bool) : List Char :=
  if negative then ['-'] else []

/-- A natural number in decimal digits. -/
def Decimal.natural (n : Nat) : String :=
  String.ofList (digits n)

/-- An integer in decimal digits, after a minus sign if it is negative. -/
def Decimal.integer (n : Int) : String :=
  String.ofList (signMark (n < 0) ++ digits n.natAbs)

namespace Magnitude

/-- How many last places the magnitude has, rounded to nearest with ties to even. -/
def roundedAt (m : Magnitude) (places : Nat) : Nat :=
  roundDiv (m.units * Nat.pow 10 places) unitsOfOne

/-- The magnitude with the given number of decimal places. -/
def fixedForm (m : Magnitude) (places : Nat) : List Char :=
  let digits := Decimal.digits (m.roundedAt places)
  let padded := List.replicate (places + 1 - digits.length) '0' ++ digits
  let whole := padded.length - places
  if places = 0 then padded else padded.take whole ++ '.' :: padded.drop whole

end Magnitude

namespace Binary64

/-- The characters of the plain form: the shortest digits that read back. -/
def plainForm : Binary64 → List Char
  | .nan => ['n', 'a', 'n']
  | .infinity negative => signMark negative ++ ['i', 'n', 'f']
  | .finite negative m => signMark negative ++ m.shortest.plainForm

/-- The plain form: the shortest digits that read back. -/
def text (x : Binary64) : String :=
  String.ofList x.plainForm

/-- A text without its last two characters, if these are a point and a zero. -/
def dropPointZero (text : List Char) : List Char :=
  if ['.', '0'].isSuffixOf text then text.take (text.length - 2) else text

/-- The short form: the plain form without a final point and zero. -/
def shortForm (x : Binary64) : List Char :=
  dropPointZero x.plainForm

/-- The fixed form: a given number of decimal places. -/
def fixedForm (places : Nat) : Binary64 → List Char
  | .nan => ['n', 'a', 'n']
  | .infinity negative => signMark negative ++ ['i', 'n', 'f']
  | .finite negative m => signMark negative ++ m.fixedForm places

/-- The form in which results are displayed: a fixed number of places where one is asked for, and
the short form otherwise. -/
def display (x : Binary64) : (places : Option Nat) → String
  | some places => String.ofList (x.fixedForm places)
  | none => String.ofList x.shortForm

end Binary64

end Calculator
