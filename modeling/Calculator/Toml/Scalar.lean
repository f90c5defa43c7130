import Calculator.Decimal.Reading
import Calculator.Document.Value
import Calculator.Toml.Reading

/-!
# Keys and simple values of a settings file

Readers of the items that hold no further items: keys (`key?`), texts, truth values, numbers and
points in time (`scalar`).

* A key is one name or several with points between them. A name is bare, or quoted on one line.
* An integer is decimal, without superfluous zeros and with an optional sign, or hexadecimal, octal
  or binary after `0x`, `0o` or `0b`. A decimal with a fraction, a power of ten or both is a
  binary64 number. A single underscore may stand between two digits. There is a limit to the digits
  of a decimal integer (`mostDigits`).
* A point in time is a date, a time of day, or a date with a time and perhaps an offset. Only its
  form is checked, and that the date exists.
-/

namespace Calculator.Toml

open Document

/-! ## Keys -/

/-- A character of a bare name. -/
def isBare (c : Char) : Bool :=
  c.isAlphanum || c = '-' || c = '_'

/-- A name: bare, or quoted on one line. -/
def name? (text : List Char) : Option (Reading String text) :=
  match text with
  | [] => none
  | c :: rest =>
      if isBare c then
        some ⟨String.ofList (c :: rest.takeWhile isBare), rest.dropWhile isBare,
          Nat.lt_succ_of_le (length_dropWhile_le isBare rest)⟩
      else if c = Text.apostrophe || c = Text.doubleQuote then quoted? c (c :: rest)
      else none

/-- A key: names with points between them. The gap behind the key is taken too. -/
def key? (text : List Char) : Option (Reading (List String) text) :=
  (name? text).bind fun name =>
    let first := name.skip isGap
    match expect? '.' [] first.rest with
    | some point =>
        let start := point.skip isGap
        have shorter := Nat.lt_trans start.shorter first.shorter
        (key? start.rest).map fun more =>
          (more.map (first.value :: ·)).widen (Nat.le_of_lt shorter)
    | none => some (first.map fun name => [name])
termination_by text.length

/-! ## Numbers -/

/-- Digits, with single underscores between them, that continue a run of digits. -/
def moreDigits (isDigit : Char → Bool) : List Char → List Char × List Char
  | [] => ([], [])
  | c :: rest =>
      if isDigit c then
        let more := moreDigits isDigit rest
        (c :: more.1, more.2)
      else
        match c, rest with
        | '_', d :: later =>
            if isDigit d then
              let more := moreDigits isDigit later
              (d :: more.1, more.2)
            else ([], c :: rest)
        | _, _ => ([], c :: rest)

/-- What follows a run of digits is no longer than the text. -/
theorem length_moreDigits_le (isDigit : Char → Bool) (text : List Char) :
    (moreDigits isDigit text).2.length ≤ text.length := by
  fun_induction moreDigits isDigit text <;> simp_all +zetaDelta <;> omega

/-- A run of digits, with single underscores between them. -/
def digits? (isDigit : Char → Bool) (text : List Char) : Option (Reading (List Char) text) :=
  match text with
  | [] => none
  | c :: rest =>
      if isDigit c then
        some ⟨c :: (moreDigits isDigit rest).1, (moreDigits isDigit rest).2,
          Nat.lt_succ_of_le (length_moreDigits_le isDigit rest)⟩
      else none

/-- An integer in a base of its own, behind its two characters of introduction. -/
def radix? (text : List Char) : Option (Reading Value text) :=
  let read (mark : Char) (base : Nat) (isDigit : Char → Bool) : Option (Reading Value text) :=
    (expect? '0' [mark] text).bind fun start =>
      start.then? fun tail =>
        (digits? isDigit tail).map fun run =>
          run.map fun digits => .integer (ofDigitsIn base digits)
  read 'x' 16 isHexDigit <|> read 'o' 8 (fun c => '0' ≤ c && c ≤ '7') <|>
    read 'b' 2 (fun c => c = '0' || c = '1')

/-- The digits before the point of a decimal: a zero alone, or no zero at the front. -/
def wholePart? (text : List Char) : Option (Reading (List Char) text) :=
  match text with
  | '0' :: _ => some (.first ['0'])
  | text => digits? Char.isDigit text

/-- The power of ten of a decimal, read from its letter on: a sign and digits. -/
def powerPart? (text : List Char) : Option (Reading Int text) :=
  match text with
  | [] => none
  | c :: rest =>
      if c = 'e' || c = 'E' then
        let (negative, tail) : Bool × Rest rest :=
          match rest with
          | '-' :: _ => (true, .tail)
          | '+' :: _ => (false, .tail)
          | rest => (false, .whole rest)
        (digits? Char.isDigit tail.1).map fun run =>
          ((run.map fun digits =>
            if negative then -(Decimal.ofDigits digits : Int)
            else Decimal.ofDigits digits).widen tail.2).behind
      else none

/-- The digits behind a point. -/
def fractionPart? (text : List Char) : Option (Reading (List Char) text) :=
  (expect? '.' [] text).bind fun point => point.then? (digits? Char.isDigit)

/-- A decimal with the given sign: an integer, or a binary64 number if it has a fraction or a power
of ten. -/
def unsigned? (negative : Bool) (text : List Char) : Option (Reading Value text) :=
  (wholePart? text).bind fun whole =>
    let integer : Int := Decimal.ofDigits whole.value
    let float (fraction : List Char) (power : Int) : Value :=
      .float (.ofDecimal negative
        ⟨Decimal.ofDigits (whole.value ++ fraction), power - fraction.length⟩)
    match fractionPart? whole.rest with
    | some fraction =>
        match powerPart? fraction.rest with
        | some power => some ⟨float fraction.value power.value, power.rest,
            Nat.lt_trans power.shorter (Nat.lt_trans fraction.shorter whole.shorter)⟩
        | none => some ⟨float fraction.value 0, fraction.rest,
            Nat.lt_trans fraction.shorter whole.shorter⟩
    | none =>
        match powerPart? whole.rest with
        | some power => some ⟨float [] power.value, power.rest,
            Nat.lt_trans power.shorter whole.shorter⟩
        | none => some (whole.map fun _ => .integer (if negative then -integer else integer))

/-- A word for a binary64 number that has no digits. -/
def floatWord? (negative : Bool) (text : List Char) : Option (Reading Value text) :=
  ((expect? 'i' ['n', 'f'] text).map fun word => word.map fun _ => .float (.infinity negative)) <|>
    ((expect? 'n' ['a', 'n'] text).map fun word => word.map fun _ => .float .nan)

/-- A number with an optional sign. -/
def signedNumber? (text : List Char) : Option (Reading Value text) :=
  match text with
  | '-' :: rest =>
      (unsigned? true rest <|> floatWord? true rest).map .behind
  | '+' :: rest =>
      (unsigned? false rest <|> floatWord? false rest).map .behind
  | text => unsigned? false text <|> floatWord? false text

/-! ## Points in time -/

/-- Two digits that denote a number between two bounds. -/
def twoDigits? (low high : Nat) (text : List Char) : Option (Reading Nat text) :=
  match text with
  | a :: b :: _ =>
      let n := Decimal.ofDigits [a, b]
      if a.isDigit && b.isDigit && low ≤ n && n ≤ high then some (Reading.first n).behind else none
  | _ => none

/-- Two digits behind a mark. -/
def markedDigits? (mark : Char) (low high : Nat) (text : List Char) : Option (Reading Nat text) :=
  (expect? mark [] text).bind fun start => start.then? (twoDigits? low high)

/-- A fraction of a second, or nothing. -/
def dropFraction (text : List Char) : List Char :=
  match text with
  | '.' :: c :: rest => if c.isDigit then rest.dropWhile Char.isDigit else text
  | _ => text

/-- Dropping a fraction does not make a text longer. -/
theorem length_dropFraction_le (text : List Char) : (dropFraction text).length ≤ text.length := by
  unfold dropFraction
  split
  · split
    · rename_i c rest _
      have := length_dropWhile_le Char.isDigit rest
      simp only [List.length_cons]
      omega
    · exact Nat.le_refl _
  · exact Nat.le_refl _

/-- A time of day: hours, minutes and seconds, perhaps with a fraction. -/
def time? (text : List Char) : Option (Reading Unit text) :=
  (twoDigits? 0 23 text).bind fun hour =>
    hour.then? fun text =>
      (markedDigits? ':' 0 59 text).bind fun minute =>
        minute.then? fun text =>
          (markedDigits? ':' 0 59 text).map fun second =>
            ⟨(), dropFraction second.rest,
              Nat.lt_of_le_of_lt (length_dropFraction_le second.rest) second.shorter⟩

/-- An offset from universal time: the letter `Z`, or a sign, hours and minutes. -/
def offset? (text : List Char) : Option (Reading Unit text) :=
  match text with
  | 'Z' :: _ => some (.first ())
  | 'z' :: _ => some (.first ())
  | c :: rest =>
      if c = '+' || c = '-' then
        (twoDigits? 0 23 rest).bind fun hour =>
          (hour.then? (markedDigits? ':' 0 59)).map fun minute => (minute.map fun _ => ()).behind
      else none
  | [] => none

/-- How many days a month has. -/
def daysOfMonth (year month : Nat) : Nat :=
  if month = 2 then
    if year % 4 = 0 && (year % 100 ≠ 0 || year % 400 = 0) then 29 else 28
  else if month = 4 || month = 6 || month = 9 || month = 11 then 30
  else 31

/-- A date: year, month and day, and whether that day exists. -/
def date? (text : List Char) : Option (Reading Bool text) :=
  (twoDigits? 0 99 text).bind fun century => century.then? fun text =>
    (twoDigits? 0 99 text).bind fun year => year.then? fun text =>
      (markedDigits? '-' 1 12 text).bind fun month => month.then? fun text =>
        (markedDigits? '-' 1 31 text).map fun day =>
          day.map fun day =>
            let year := 100 * century.value + year.value
            decide (1 ≤ year ∧ day ≤ daysOfMonth year month.value)

/-- A time behind a date: a letter or a space between the two, and perhaps an offset. -/
def timeOfDate? (text : List Char) : Option (Reading Unit text) :=
  match text with
  | [] => none
  | c :: rest =>
      if c = 'T' || c = 't' || c = ' ' then
        (time? rest).map fun time =>
          match time.then? offset? with
          | some offset => offset.behind
          | none => time.behind
      else none

/-- A point in time that is known to begin with a date. -/
def moment? {text : List Char} (date : Reading Bool text) : Option (Reading Value text) :=
  if date.value then
    match timeOfDate? date.rest with
    | some time => some ⟨.moment, time.rest, Nat.lt_trans time.shorter date.shorter⟩
    | none => some (date.map fun _ => .moment)
  else none

/-! ## Simple values -/

/-- A quoted text, on one line or on several. -/
def textValue? (mark : Char) (text : List Char) : Option (Reading Value text) :=
  if [mark, mark, mark].isPrefixOf text then (longQuoted? mark text).map fun r => r.map .text
  else (quoted? mark text).map fun r => r.map .text

/-- A truth value. -/
def truth? (text : List Char) : Option (Reading Value text) :=
  ((expect? 't' ['r', 'u', 'e'] text).map fun word => word.map fun _ => .boolean true) <|>
    ((expect? 'f' ['a', 'l', 's', 'e'] text).map fun word => word.map fun _ => .boolean false)

/-- How many digits a decimal integer may have. -/
def mostDigits : Nat := 4300

/-- A number in decimal form. -/
def decimal {text : List Char} (number : Reading Value text) :
    Except Defect (Reading Value text) :=
  match number.value with
  | .integer n => if n.natAbs < Nat.pow 10 mostDigits then .ok number else .error .longInteger
  | _ => .ok number

/-- A value that holds no other values. -/
def scalar (text : List Char) : Except Defect (Reading Value text) :=
  if text.head? = some Text.doubleQuote then wellFormed (textValue? Text.doubleQuote text)
  else if text.head? = some Text.apostrophe then wellFormed (textValue? Text.apostrophe text)
  else
    match truth? text with
    | some word => .ok word
    | none =>
        match date? text with
        | some date => wellFormed (moment? date)
        | none =>
            match time? text with
            | some time => .ok (time.map fun _ => .moment)
            | none =>
                match radix? text with
                | some number => .ok number
                | none => (wellFormed (signedNumber? text)).bind decimal

end Calculator.Toml
