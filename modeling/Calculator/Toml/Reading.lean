import Calculator.Text.Quoted

/-!
# Reading from the front of a text

A reader takes characters from the front of a text. It hands back what it read together with the
rest, and with the proof that the rest is shorter (`Reading`). Readers that call each other end by
that proof. A reader of one form is `none` where the text has another form; a reader of all forms
there are says what is wrong with a text that has none of them (`Defect`).

This module also has the reader of quoted text. A settings file knows four forms of it: between
single or double quotation marks, on one line or, between marks written three times, on several.
Escapes are known between double marks only (`escape?`).
-/

namespace Calculator.Toml

/-! ## Readings -/

/-- What was read from the front of a text, and the rest, which is shorter. -/
structure Reading (α : Type) (text : List Char) where
  /-- What was read. -/
  value : α
  /-- What stands behind it. -/
  rest : List Char
  /-- Something was taken. -/
  shorter : rest.length < text.length

namespace Reading

variable {α β : Type} {text : List Char}

/-- The reading with its value changed. -/
def map (f : α → β) (r : Reading α text) : Reading β text :=
  ⟨f r.value, r.rest, r.shorter⟩

/-- A reading of the rest of a text, as a reading of the text. -/
def widen {tail : List Char} (r : Reading α tail) (h : tail.length ≤ text.length) :
    Reading α text :=
  ⟨r.value, r.rest, Nat.lt_of_lt_of_le r.shorter h⟩

/-- A reading of the first character. -/
def first {c : Char} {rest : List Char} (value : α) : Reading α (c :: rest) :=
  ⟨value, rest, Nat.lt_succ_self rest.length⟩

/-- A reading behind the first character, as a reading of the whole. -/
def behind {c : Char} {rest : List Char} (r : Reading α rest) : Reading α (c :: rest) :=
  r.widen (Nat.le_succ rest.length)

/-- What a second reader reads behind the first. -/
def then? (r : Reading α text) (next : (tail : List Char) → Option (Reading β tail)) :
    Option (Reading β text) :=
  (next r.rest).map fun second => second.widen (Nat.le_of_lt r.shorter)

/-- The reading with more characters dropped behind it. -/
def skip (r : Reading α text) (p : Char → Bool) : Reading α text :=
  ⟨r.value, r.rest.dropWhile p,
    Nat.lt_of_le_of_lt (List.dropWhile_sublist p).length_le r.shorter⟩

end Reading

/-- The rest of a text behind the given beginning, which is not empty. -/
def expect? (start : Char) (more : List Char) (text : List Char) : Option (Reading Unit text) :=
  if h : (start :: more).isPrefixOf text then
    some ⟨(), text.drop (start :: more).length, by
      have := (List.isPrefixOf_iff_prefix.1 h).length_le
      simp only [List.length_drop, List.length_cons] at this ⊢
      omega⟩
  else none

/-- Dropping characters does not make a text longer. -/
theorem length_dropWhile_le (p : Char → Bool) (text : List Char) :
    (text.dropWhile p).length ≤ text.length :=
  (List.dropWhile_sublist p).length_le

/-- What is left of a text: no more than the text. -/
abbrev Rest (text : List Char) : Type :=
  { rest : List Char // rest.length ≤ text.length }

namespace Rest

/-- All of a text is left. -/
def whole (text : List Char) : Rest text :=
  ⟨text, Nat.le_refl text.length⟩

/-- All but the first character is left. -/
def tail {c : Char} {rest : List Char} : Rest (c :: rest) :=
  ⟨rest, Nat.le_succ rest.length⟩

/-- What is left behind the first character, as what is left of the whole. -/
def behind {c : Char} {text : List Char} (rest : Rest text) : Rest (c :: text) :=
  ⟨rest.1, Nat.le_succ_of_le rest.2⟩

/-- All from the first character on that is not in a class. -/
def dropping (p : Char → Bool) (text : List Char) : Rest text :=
  ⟨text.dropWhile p, length_dropWhile_le p text⟩

end Rest

/-! ## Defects -/

/-- Why a file has no value. -/
inductive Defect
  /-- It is not well formed, or it contradicts itself. -/
  | malformed
  /-- It has a decimal integer of too many digits. -/
  | longInteger
  /-- Its values are too deep inside each other to be read. -/
  | tooDeep
deriving DecidableEq

/-- A result that a well-formed file has. -/
def wellFormed {α : Type} : Option α → Except Defect α
  | some result => .ok result
  | none => .error .malformed

/-! ## Characters -/

/-- A space or a tab. -/
def isGap (c : Char) : Bool :=
  c = ' ' || c = '\t'

/-- A space, a tab or a line feed. -/
def isWideGap (c : Char) : Bool :=
  isGap c || c = '\n'

/-- Whether a control character may not stand as it is in a comment or a quoted text; the tab always
may, and the line feed where a text may span lines. -/
def isForbidden (spansLines : Bool) (c : Char) : Bool :=
  (c.toNat < 0x20 || c.toNat = 0x7f) && c ≠ '\t' && !(spansLines && c = '\n')

/-- Whether a character is a hexadecimal digit. -/
def isHexDigit (c : Char) : Bool :=
  c.isDigit || ('a' ≤ c && c ≤ 'f') || ('A' ≤ c && c ≤ 'F')

/-- The value of a digit in any base up to sixteen. -/
def digitValue (c : Char) : Nat :=
  if c.isDigit then c.toNat - '0'.toNat
  else if c ≤ 'F' then c.toNat - 'A'.toNat + 10
  else c.toNat - 'a'.toNat + 10

/-- The number that digits denote in a base. -/
def ofDigitsIn (base : Nat) (digits : List Char) : Nat :=
  digits.foldl (fun n c => base * n + digitValue c) 0

/-- The character whose code point is written with hexadecimal digits, if there is one. -/
def characterOf? (digits : List Char) : Option Char :=
  let code := ofDigitsIn 16 digits
  if digits.all isHexDigit && (code < 0xd800 || (0xdfff < code && code < 0x110000)) then
    some (Char.ofNat code)
  else none

/-! ## Quoted text -/

/-- What an escape stands for, read behind its backslash. In a text that spans lines, a backslash at
the end of a line stands for nothing and takes the blanks around the line end with it. -/
def escape? (spansLines : Bool) (text : List Char) : Option (Reading (List Char) text) :=
  match text with
  | 'u' :: a :: b :: c :: d :: rest =>
      (characterOf? [a, b, c, d]).map fun char => ⟨[char], rest, by simp; omega⟩
  | 'U' :: a :: b :: c :: d :: e :: f :: g :: h :: rest =>
      (characterOf? [a, b, c, d, e, f, g, h]).map fun char => ⟨[char], rest, by simp; omega⟩
  | 'b' :: _ => some (.first ['\x08'])
  | 't' :: _ => some (.first ['\t'])
  | 'n' :: _ => some (.first ['\n'])
  | 'f' :: _ => some (.first ['\x0c'])
  | 'r' :: _ => some (.first ['\r'])
  | c :: rest =>
      if c = Text.doubleQuote || c = Text.backslash then some (.first [c])
      else if spansLines && isWideGap c then
        match h : (c :: rest).dropWhile isGap with
        | '\n' :: later => some ⟨[], later.dropWhile isWideGap, by
            have shorter := length_dropWhile_le isGap (c :: rest)
            have := length_dropWhile_le isWideGap later
            rw [h] at shorter
            simp only [List.length_cons] at shorter ⊢
            omega⟩
        | _ => none
      else none
  | [] => none

/-- How a quoted text ends: after its mark, or after three of them where it spans lines. -/
structure Quoting where
  /-- The mark. -/
  mark : Char
  /-- Whether the text spans lines, between marks written three times. -/
  spansLines : Bool

/-- The marks that end a quoted text. -/
def Quoting.closing (q : Quoting) : List Char :=
  if q.spansLines then [q.mark, q.mark] else []

/-- The text up to its closing marks. Escapes are known between double marks. -/
def quotedBody? (q : Quoting) (text : List Char) : Option (Reading (List Char) text) :=
  match expect? q.mark q.closing text with
  | some close => some ⟨[], close.rest, close.shorter⟩
  | none =>
      match text with
      | [] => none
      | c :: rest =>
          if c = Text.backslash && q.mark = Text.doubleQuote then
            (escape? q.spansLines rest).bind fun escaped =>
              have := escaped.shorter
              (quotedBody? q escaped.rest).map fun body =>
                ((body.map (escaped.value ++ ·)).widen (Nat.le_of_lt escaped.shorter)).behind
          else if isForbidden q.spansLines c then none
          else (quotedBody? q rest).map fun body => (body.map (c :: ·)).behind
termination_by text.length

/-- Up to two more marks behind the three that end a text on several lines belong to the text. -/
def extraMarks (mark : Char) (rest : List Char) : Nat :=
  ((rest.take 2).takeWhile (· = mark)).length

/-- A quoted text on one line, read from its mark on. -/
def quoted? (mark : Char) (text : List Char) : Option (Reading String text) :=
  (expect? mark [] text).bind fun opening =>
    (quotedBody? ⟨mark, false⟩ opening.rest).map fun body =>
      ⟨String.ofList body.value, body.rest, Nat.lt_trans body.shorter opening.shorter⟩

/-- A quoted text on several lines, read from its three marks on. A line feed right behind them does
not belong to the text. -/
def longQuoted? (mark : Char) (text : List Char) : Option (Reading String text) :=
  (expect? mark [mark, mark] text).bind fun opening =>
    let start : List Char := match opening.rest with
      | '\n' :: rest => rest
      | rest => rest
    have start_le : start.length ≤ opening.rest.length := by
      unfold start
      split
      · rename_i h
        rw [h]
        simp
      · exact Nat.le_refl _
    (quotedBody? ⟨mark, true⟩ start).map fun body =>
      let extra := extraMarks mark body.rest
      ⟨String.ofList (body.value ++ List.replicate extra mark), body.rest.drop extra, by
        have := body.shorter
        have := opening.shorter
        simp only [List.length_drop]
        omega⟩

end Calculator.Toml
