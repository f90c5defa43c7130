import Calculator.Text.Quoted

/-!
# What a console shows of a literal text

A console reads style tags in the texts that it is given: a bracket, a letter from `a` to `z` or one
of `#`, `/` and `@`, and everything up to the next closing bracket, unless another opening bracket
comes first (`tagLength?`). To be shown as it is, a text is first escaped with backslashes, which
the console then takes away again. The two steps are not quite inverse to each other, and `literal`
is what is left of a text behind both:

* a tag is shown as it is, together with all backslashes before it;
* elsewhere a backslash before an opening bracket is taken away;
* a text that ends in a single backslash gets a second one.

In what is left the console drops five control characters that would move the cursor
(`isDropped`).

A console also puts a picture in the place of each code of an emoji, which is its name between two
colons as in `:smile:`. There is no table of these names here: a text with such a code in it is out of
scope, and `literal` leaves the code as it stands.
-/

namespace Calculator.Console

/-- Whether a character can begin the inside of a tag. -/
def beginsTag (c : Char) : Bool :=
  ('a' ≤ c && c ≤ 'z') || c = '#' || c = '/' || c = '@'

/-- How many characters the inside of a tag takes, its closing bracket included; nothing if another
opening bracket comes first, or no closing one at all. -/
def insideLength? : List Char → Option Nat
  | [] => none
  | c :: rest =>
      if c = ']' then some 1
      else if c = '[' then none
      else (insideLength? rest).map (· + 1)

/-- How many characters the tag at the beginning of a text takes, if there is one. -/
def tagLength? : List Char → Option Nat
  | '[' :: c :: rest => if beginsTag c then (insideLength? rest).map (· + 2) else none
  | _ => none

/-- The text as it is shown, behind backslashes and tags that were taken over already: the first
number counts characters that are taken over as they are. -/
def shownFrom : (keep : Nat) → List Char → List Char
  | _, [] => []
  | keep + 1, c :: rest => c :: shownFrom keep rest
  | 0, c :: rest =>
      if c = Text.backslash then
        let more := (rest.takeWhile (· = Text.backslash)).length
        match tagLength? (rest.drop more) with
        | some tag => c :: shownFrom (more + tag) rest
        | none => if rest.head? = some '[' then shownFrom 0 rest else c :: shownFrom 0 rest
      else
        match tagLength? (c :: rest) with
        | some tag => c :: shownFrom (tag - 1) rest
        | none => c :: shownFrom 0 rest

/-- Whether a text ends in a backslash that stands alone. -/
def endsInLoneBackslash (text : List Char) : Bool :=
  match text.reverse with
  | [] => false
  | c :: rest => c = Text.backslash && rest.head? ≠ some Text.backslash

/-- Whether the console drops a character: the bell, and the characters that move back, down by more
than a line, or to the beginning of the line. -/
def isDropped (c : Char) : Bool :=
  c = '\x07' || c = '\x08' || c = '\x0b' || c = '\x0c' || c = '\x0d'

/-- What a console shows of a text that is given to it as a literal text. The text is one without codes
of emoji, such as `:smile:`, for which a console shows pictures. -/
def literal (text : List Char) : List Char :=
  let doubled := if endsInLoneBackslash text then text ++ [Text.backslash] else text
  (shownFrom 0 doubled).filter fun c => !isDropped c

/-- Without backslashes there is nothing to take away. -/
theorem shownFrom_eq_self {text : List Char} (keep : Nat) (h : Text.backslash ∉ text) :
    shownFrom keep text = text := by
  induction text generalizing keep with
  | nil => cases keep <;> rfl
  | cons c rest ih =>
      have hc : c ≠ Text.backslash := fun e => h (e ▸ List.mem_cons_self)
      have hrest : Text.backslash ∉ rest := fun m => h (List.mem_cons_of_mem c m)
      cases keep with
      | zero =>
          simp only [shownFrom, hc, if_false]
          split <;> simp [ih _ hrest]
      | succ keep => simp [shownFrom, ih _ hrest]

end Calculator.Console
