import Calculator.Text.Printable

/-!
# Quoted text

A text is shown between two equal quotation marks, with an escape for every character that would
end it, start an escape or spoil the line it stands on.

* The mark is the apostrophe, and the double quotation mark for a text that holds an apostrophe and
  no double one (`mark`).
* The mark in use and the backslash follow a backslash. Line feed, carriage return and tab are
  `\n`, `\r` and `\t`. Any other character that is not printable is written by its code point in
  lower-case hexadecimal: two digits after `\x`, four after `\u` or eight after `\U`, the first of
  these that holds it (`escape`).

So quoted text is printable throughout, and the text can be read off it again.
-/

namespace Calculator.Text

/-- The apostrophe. -/
def apostrophe : Char := '\x27'

/-- The double quotation mark. -/
def doubleQuote : Char := '\x22'

/-- The backslash. -/
def backslash : Char := '\x5c'

/-- The mark that a text is quoted with: the one that saves escapes, the apostrophe if neither
does. -/
def mark (text : List Char) : Char :=
  if apostrophe ∈ text ∧ doubleQuote ∉ text then doubleQuote else apostrophe

/-- The last `width` hexadecimal digits of a number, most significant first. -/
def hexDigits : (width : Nat) → (n : Nat) → List Char
  | 0, _ => []
  | width + 1, n => hexDigits width (n / 16) ++ [Nat.digitChar (n % 16)]

/-- As many digits are written as were asked for. -/
@[simp] theorem length_hexDigits (width n : Nat) : (hexDigits width n).length = width := by
  induction width generalizing n with
  | zero => rfl
  | succ width ih => simp [hexDigits, ih]

/-- One character inside quotation marks `quote`. -/
def escape (quote c : Char) : List Char :=
  if c = quote ∨ c = backslash then [backslash, c]
  else if c = '\n' then [backslash, 'n']
  else if c = '\r' then [backslash, 'r']
  else if c = '\t' then [backslash, 't']
  else if isPrintable c then [c]
  else if c.toNat < 0x100 then backslash :: 'x' :: hexDigits 2 c.toNat
  else if c.toNat < 0x10000 then backslash :: 'u' :: hexDigits 4 c.toNat
  else backslash :: 'U' :: hexDigits 8 c.toNat

/-- A printable character that is neither the mark nor the backslash stands for itself. -/
theorem escape_of_isPrintable {quote c : Char} (printable : isPrintable c = true)
    (notQuote : c ≠ quote) (notBackslash : c ≠ backslash) : escape quote c = [c] := by
  have newline : c ≠ '\n' := by rintro rfl; revert printable; decide
  have carriage : c ≠ '\r' := by rintro rfl; revert printable; decide
  have tab : c ≠ '\t' := by rintro rfl; revert printable; decide
  simp [escape, printable, notQuote, notBackslash, newline, carriage, tab]

/-- A text between quotation marks, as characters. -/
def quoteChars (text : List Char) : List Char :=
  mark text :: text.flatMap (escape (mark text)) ++ [mark text]

/-- A text between quotation marks. -/
def quote (text : String) : String :=
  String.ofList (quoteChars text.toList)

/-- The empty text is two apostrophes. -/
theorem quoteChars_nil : quoteChars [] = [apostrophe, apostrophe] := rfl

/-- The characters of a quoted text. -/
@[simp] theorem toList_quote (text : String) : (quote text).toList = quoteChars text.toList := by
  simp [quote]

end Calculator.Text
