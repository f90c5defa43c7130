/-!
# Blank characters

Two sets of characters count as empty space, and they differ in four code points.

* **Blank** characters (`isBlank`) separate the lexemes of an expression, are drawn as a plain space
  under an error marker, and are dropped at both ends of a line typed at the prompt.
* **White space** (`isWhiteSpace`) is the property `White_Space` of the Unicode standard. It is
  dropped at both ends of a number written as text. The four separators U+001C to U+001F are blank
  but are not white space (`isBlank_of_isWhiteSpace` is the inclusion).

`trim` drops a class of characters at both ends of a text.
-/

namespace Calculator.Text

/-- White space: the property `White_Space` of the Unicode standard. -/
def isWhiteSpace (c : Char) : Bool :=
  let n := c.toNat
  (0x09 ≤ n && n ≤ 0x0d) || n == 0x20 || n == 0x85 || n == 0xa0 || n == 0x1680 ||
    (0x2000 ≤ n && n ≤ 0x200a) || n == 0x2028 || n == 0x2029 || n == 0x202f || n == 0x205f ||
    n == 0x3000

/-- Blank characters: white space and the four information separators U+001C to U+001F. -/
def isBlank (c : Char) : Bool :=
  isWhiteSpace c || (0x1c ≤ c.toNat && c.toNat ≤ 0x1f)

/-- White space is blank. -/
theorem isBlank_of_isWhiteSpace {c : Char} (h : isWhiteSpace c = true) : isBlank c = true := by
  simp [isBlank, h]

/-- The plain space is blank. -/
@[simp] theorem isBlank_space : isBlank ' ' = true := by decide

/-- The line feed is blank. -/
@[simp] theorem isBlank_newline : isBlank '\n' = true := by decide

/-- `text` without the characters of the class `p` at its two ends. -/
def trim (p : Char → Bool) (text : List Char) : List Char :=
  ((text.dropWhile p).reverse.dropWhile p).reverse

/-- `text` without the characters of the class `p` at its two ends. -/
def trimString (p : Char → Bool) (text : String) : String :=
  String.ofList (trim p text.toList)

/-- A text of which every character is in the class is dropped whole. -/
theorem trim_eq_nil {p : Char → Bool} {text : List Char} (h : ∀ c ∈ text, p c = true) :
    trim p text = [] := by
  have h' : text.dropWhile p = [] := by
    induction text with
    | nil => rfl
    | cons c rest ih =>
        rw [List.dropWhile_cons_of_pos (h c (List.mem_cons_self ..))]
        exact ih fun d hd => h d (List.mem_cons_of_mem c hd)
  simp [trim, h']

/-- A text without characters of the class stays as it is. -/
theorem trim_eq_self {p : Char → Bool} {text : List Char} (h : ∀ c ∈ text, p c = false) :
    trim p text = text := by
  have kept : ∀ {text : List Char}, (∀ c ∈ text, p c = false) → text.dropWhile p = text := by
    intro text h
    cases text with
    | nil => rfl
    | cons c rest =>
        rw [List.dropWhile_cons_of_neg]
        rw [h c (List.mem_cons_self ..)]
        exact Bool.false_ne_true
  have reversed : ∀ c ∈ text.reverse, p c = false := fun c hc => h c (List.mem_reverse.1 hc)
  rw [trim, kept h, kept reversed, List.reverse_reverse]

end Calculator.Text
