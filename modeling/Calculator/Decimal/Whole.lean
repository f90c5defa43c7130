import Calculator.Decimal.Reading

/-!
# Whole numbers with padding

A whole number that is given as a text may be **padded**. `unpadded?` takes the padding off and
keeps a minus sign; what is left has to be a **plain** whole number, digits without a superfluous
zero after an optional minus sign (`plain?`).

* A sign may stand in front. Behind it the first character is a digit.
* Zeros and underscores may stand in front of the first other digit (`withoutLeadingZeros?`). A
  minus sign may follow them too, so that `0-1` is another spelling of `-1`.
* A point with one zero or more may stand at the end (`withoutZeroFraction`).
* Single underscores may stand between other characters (`Text.withoutSeparators?`).
-/

namespace Calculator.Decimal

/-- A zero or an underscore. -/
def isZeroPadding (c : Char) : Bool :=
  c = '0' || c = '_'

/-- A text without the zeros and underscores at its front. The last of them is kept where nothing
else is left, or where only a fraction is. -/
def withoutLeadingZeros? (text : List Char) : Option (List Char) :=
  let kept := (text.takeWhile isZeroPadding).getLast?.toList
  match text with
  | [] => none
  | first :: _ =>
      if first = '0' then
        match text.dropWhile isZeroPadding with
        | [] => some kept
        | next :: rest =>
            if next = '.' then some (kept ++ next :: rest)
            else if next.isDigit || next = '-' then some (next :: rest)
            else none
      else if first.isDigit then some text
      else none

/-- A text without the point and the zeros that it ends with. -/
def withoutZeroFraction (text : List Char) : List Char :=
  match text.dropWhile (· ≠ '.') with
  | _ :: zero :: zeros =>
      if (zero :: zeros).all (· = '0') then text.takeWhile (· ≠ '.') else text
  | _ => text

/-- The sign in front of a text, whether it is a minus, and the text behind it. -/
def splitSign (text : List Char) : Bool × List Char :=
  match text with
  | '-' :: rest => (true, rest)
  | '+' :: rest => (false, rest)
  | _ => (false, text)

/-- A whole number without its padding, but with a minus sign in front where it had one. -/
def unpadded? (text : List Char) : Option (List Char) :=
  let (negative, rest) := splitSign text
  let bare := (withoutLeadingZeros? rest).bind fun digits =>
    Text.withoutSeparators? (withoutZeroFraction digits)
  bare.map fun digits => if negative then '-' :: digits else digits

/-- The digits of a text behind an optional minus sign. -/
def magnitudePart (text : List Char) : List Char :=
  match text with
  | '-' :: rest => rest
  | _ => text

/-- The whole number that a plain text denotes: digits without a superfluous zero after an optional
minus sign. -/
def plain? (text : List Char) : Option Int :=
  let digits := magnitudePart text
  if digits.head? = some '0' && digits.length ≠ 1 then none
  else if text.head? = some '+' then none
  else signed? text

/-- Whether a text begins with a plain whole number of more characters than the limit. -/
def isLongerThan (limit : Nat) (text : List Char) : Bool :=
  let digits := magnitudePart text
  let sign := text.length - digits.length
  digits.head? ≠ some '0' && limit < sign + (digits.takeWhile Char.isDigit).length

end Calculator.Decimal
