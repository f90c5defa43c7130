import Calculator.Toml.Node
import Calculator.Toml.Scalar

/-!
# Arrays and inline tables

The readers of the values that hold other values, and with them the reader of any value (`value`).

* An array may span lines, hold comments and end in a comma.
* An inline table stays on one line and does not end in a comma. It is complete as it stands, so its
  entries are put together under a header of their own.

The readers call each other, and only so many calls fit inside each other: each call takes one place
of the room that there is, and where none is left the file cannot be read (`withRoom`). An array takes
two places, one as a value and one for its items, and an inline table takes three. What the readers
call besides, for keys, simple values, blanks and comments, goes only a few calls deeper, whatever is
read, and is not counted.
-/

namespace Calculator.Toml

open Document

/-- What stands behind a comment, or the text itself where no comment begins; nothing if the comment
holds a character that it must not hold. -/
def afterComment? (text : List Char) : Option (Rest text) :=
  match text with
  | '#' :: body =>
      if (body.takeWhile (· ≠ '\n')).any (isForbidden false) then none
      else some (Rest.dropping (· ≠ '\n') body).behind
  | text => some (.whole text)

/-- What stands behind any number of comments and blanks, line ends included. -/
def afterComments? (text : List Char) : Option (Rest text) :=
  match h : text.dropWhile isWideGap with
  | '#' :: body =>
      have shorter : body.length < text.length := by
        have := length_dropWhile_le isWideGap text
        rw [h] at this
        exact this
      if (body.takeWhile (· ≠ '\n')).any (isForbidden false) then none
      else
        have le := length_dropWhile_le (· ≠ '\n') body
        (afterComments? (body.dropWhile (· ≠ '\n'))).map fun rest =>
          ⟨rest.1, Nat.le_trans rest.2 (Nat.le_trans le (Nat.le_of_lt shorter))⟩
  | rest => some ⟨rest, h ▸ length_dropWhile_le isWideGap text⟩
termination_by text.length
decreasing_by exact Nat.lt_of_le_of_lt (length_dropWhile_le _ body) shorter

/-- A reading with the blanks and comments behind it taken too. -/
def Reading.spaced? {α : Type} {text : List Char} (r : Reading α text) : Option (Reading α text) :=
  (afterComments? r.rest).map fun rest => ⟨r.value, rest.1, Nat.lt_of_le_of_lt rest.2 r.shorter⟩

/-- A key and the equals sign behind it. -/
def keyEquals? (text : List Char) : Option (Reading (List String) text) :=
  (key? text).bind fun key =>
    (key.then? (expect? '=' [])).map fun equals =>
      (equals.map fun _ => key.value).skip isGap

/-- No more characters and a lower rank are less. -/
theorem lex_of_le {m n i j : Nat} (le : m ≤ n) (lt : i < j) :
    Prod.Lex (· < ·) (· < ·) (m, i) (n, j) := by
  rcases Nat.lt_or_eq_of_le le with h | h
  · exact Prod.Lex.left _ _ h
  · rw [h]; exact Prod.Lex.right _ lt

/-- A call inside another one, with the room that is left for the calls inside it. -/
def withRoom {α : Type} (room : Nat) (call : (inside : Nat) → Except Defect α) : Except Defect α :=
  match room with
  | 0 => .error .tooDeep
  | inside + 1 => call inside

section WithRoom

variable {α : Type} (call : Nat → Except Defect α)

/-- Without room, nothing is called. -/
@[simp] theorem withRoom_zero : withRoom 0 call = .error .tooDeep := rfl

/-- A call takes one place. -/
@[simp] theorem withRoom_succ (inside : Nat) : withRoom (inside + 1) call = call inside := rfl

end WithRoom

mutual

/-- A value. -/
def value (room : Nat) (text : List Char) : Except Defect (Reading Value text) :=
  withRoom room fun inside =>
    match text with
    | '[' :: rest =>
        (items inside rest).map fun items => (items.map Value.array).behind
    | '\x7b' :: rest =>
        (inline inside rest).map fun entries =>
          (entries.map fun entries => Value.table (valuesOf entries)).behind
    | text => scalar text
termination_by (text.length, 0)

/-- The items of an array up to its closing bracket, from behind the opening bracket or a comma. All
of them are read in one call. -/
def items (room : Nat) (text : List Char) : Except Defect (Reading (List Value) text) :=
  withRoom room fun inside =>
    (wellFormed (afterComments? text)).bind fun start =>
      match hstart : start.1 with
      | ']' :: rest => .ok ⟨[], rest, by have := start.2; rw [hstart] at this; exact this⟩
      | _ =>
          (value inside start.1).bind fun item =>
            (wellFormed item.spaced?).bind fun item =>
              have shorter := Nat.lt_of_lt_of_le item.shorter start.2
              match h : item.rest with
              | ']' :: rest => .ok ⟨[item.value], rest, by
                  rw [h] at shorter; simp only [List.length_cons] at shorter; omega⟩
              | ',' :: rest =>
                  have less : rest.length < text.length := by
                    rw [h] at shorter; simp only [List.length_cons] at shorter; omega
                  (items room rest).map fun items =>
                    (items.map (item.value :: ·)).widen (Nat.le_of_lt less)
              | _ => .error .malformed
termination_by (text.length, 1)
decreasing_by
  · exact lex_of_le start.2 (by decide)
  · exact Prod.Lex.left _ _ less

/-- An inline table up to its closing brace, from behind the opening brace. -/
def inline (room : Nat) (text : List Char) : Except Defect (Reading Entries text) :=
  withRoom room fun inside =>
    match h : text.dropWhile isGap with
    | '\x7d' :: rest => .ok ⟨[], rest, by
        have := length_dropWhile_le isGap text
        rw [h] at this
        exact this⟩
    | _ =>
        (entries inside [] (text.dropWhile isGap)).map fun entries =>
          entries.widen (length_dropWhile_le isGap text)
termination_by (text.length, 3)
decreasing_by exact lex_of_le (length_dropWhile_le isGap text) (by decide)

/-- The entries of an inline table up to its closing brace, behind those that were read before. Each
of them is read in a call of its own. -/
def entries (room : Nat) (before : Entries) (text : List Char) :
    Except Defect (Reading Entries text) :=
  withRoom room fun inside =>
    (wellFormed (keyEquals? text)).bind fun key =>
      have shorter := key.shorter
      (value inside key.rest).bind fun value =>
        (wellFormed (Entries.assign? 0 [] key.value value.value before)).bind fun all =>
          have later := (value.skip isGap).shorter
          match h : (value.skip isGap).rest with
          | '\x7d' :: rest => .ok ⟨all, rest, by
              rw [h] at later; simp only [List.length_cons] at later; omega⟩
          | ',' :: rest =>
              have less : rest.length < text.length := by
                rw [h] at later; simp only [List.length_cons] at later; omega
              have le := length_dropWhile_le isGap rest
              (entries room all (rest.dropWhile isGap)).map fun more =>
                more.widen (Nat.le_trans le (Nat.le_of_lt less))
          | _ => .error .malformed
termination_by (text.length, 2)

end

end Calculator.Toml
