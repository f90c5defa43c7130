import Calculator.Decimal.Reading
import Calculator.Diagnostic
import Calculator.Text.Blank

/-!
# Lexemes

Every text splits in one way into lexemes and gaps. A gap consists of blanks. A lexeme is a run of
digits and points that no further digit or point touches, or any other single character.

`scan` splits off the first gap and the first lexeme; `scan_eq_lexeme` says that nothing is lost in
between. `Symbol.ofLexeme` gives the symbol that a lexeme stands for, or the reason why there is
none. The symbol depends on the characters of the lexeme alone.
-/

namespace Calculator

/-- Whether a character can be part of a number: an ASCII digit or the point. -/
def isNumeralChar (c : Char) : Bool :=
  c.isDigit || c = '.'

/-- Digits are among the characters of numerals. -/
theorem isNumeralChar_of_isDigit {c : Char} (h : c.isDigit = true) : isNumeralChar c = true := by
  rw [isNumeralChar, h, Bool.true_or]

/-- What stands at the beginning of a text. -/
inductive Scan
  /-- Nothing but blanks. -/
  | finished
  /-- A gap of that many blanks and then a lexeme, with what follows it. -/
  | lexeme (gap : Nat) (text rest : List Char)
deriving DecidableEq

/-- The lexeme that begins with a given character which is not blank, and what follows it. -/
def splitLexeme (c : Char) (rest : List Char) : List Char × List Char :=
  if isNumeralChar c then (c :: rest.takeWhile isNumeralChar, rest.dropWhile isNumeralChar)
  else ([c], rest)

/-- A lexeme and what follows it are the text that they were split from. -/
theorem splitLexeme_append (c : Char) (rest : List Char) :
    (splitLexeme c rest).1 ++ (splitLexeme c rest).2 = c :: rest := by
  unfold splitLexeme
  split <;> simp [List.takeWhile_append_dropWhile]

/-- A lexeme is not empty. -/
theorem length_splitLexeme_pos (c : Char) (rest : List Char) :
    0 < (splitLexeme c rest).1.length := by
  unfold splitLexeme
  split <;> simp

/-- The first gap and the first lexeme of a text. -/
def scan (text : List Char) : Scan :=
  match text.dropWhile Text.isBlank with
  | [] => .finished
  | c :: rest =>
      .lexeme (text.takeWhile Text.isBlank).length (splitLexeme c rest).1 (splitLexeme c rest).2

/-- A text splits into a gap of blanks, a lexeme that is not empty, and what follows. -/
theorem scan_eq_lexeme {text lexeme rest : List Char} {gap : Nat}
    (h : scan text = .lexeme gap lexeme rest) :
    text = text.takeWhile Text.isBlank ++ (lexeme ++ rest) ∧
      gap = (text.takeWhile Text.isBlank).length ∧ 0 < lexeme.length := by
  unfold scan at h
  split at h
  · cases h
  · rename_i c tail hdrop
    cases h
    refine ⟨?_, rfl, length_splitLexeme_pos c tail⟩
    rw [splitLexeme_append, ← hdrop, List.takeWhile_append_dropWhile]

/-- Behind the gap stand the lexeme and what follows it. -/
theorem drop_of_scan {text lexeme rest : List Char} {gap : Nat}
    (h : scan text = .lexeme gap lexeme rest) : text.drop gap = lexeme ++ rest := by
  obtain ⟨whole, rfl, -⟩ := scan_eq_lexeme h
  generalize text.takeWhile Text.isBlank = blanks at whole ⊢
  rw [whole, List.drop_left]

/-- What follows a lexeme is shorter than the text. -/
theorem length_rest_lt_of_scan {text lexeme rest : List Char} {gap : Nat}
    (h : scan text = .lexeme gap lexeme rest) : rest.length < text.length := by
  obtain ⟨whole, -, positive⟩ := scan_eq_lexeme h
  rw [whole]
  simp only [List.length_append]
  omega

/-- The symbol that a lexeme stands for: a run of digits and points is a number, any other character
stands for itself. -/
def Symbol.ofLexeme (text : List Char) : Except Cause Symbol :=
  match text with
  | [] => .error (.malformedNumber [])
  | c :: _ =>
      if isNumeralChar c then
        match Decimal.ofNumeral? text with
        | some decimal => .ok (.number (.ofDecimal false decimal))
        | none => .error (.malformedNumber text)
      else
        match ofChar? c with
        | some symbol => .ok symbol
        | none => .error (.unknownCharacter c)

/-- No lexeme stands for the end of the input. -/
theorem Symbol.ofLexeme_ne_endOfInput (text : List Char) :
    Symbol.ofLexeme text ≠ .ok .endOfInput := by
  unfold Symbol.ofLexeme
  split
  · simp
  · split
    · split <;> simp
    · split
      · rename_i symbol h
        intro hs
        cases hs
        simp only [Symbol.ofChar?] at h
        repeat' split at h
        all_goals simp_all
      · simp

end Calculator
