import Calculator.Console.Markup
import Calculator.Text.Blank
import Calculator.Text.Cluster

/-!
# How a console lays out a text

A console has lines of `columns` cells. It breaks a longer line of a text between words, as late as
possible (`fill`).

* A **word** is a run of characters that are not blank, with the blanks behind it; the blanks at the
  beginning of a line belong to its first word (`words`). The blanks behind a word need no room.
* A word that is wider than a whole line starts on a line of its own and is cut between its clusters
  wherever a line is full (`cut`).
* Blanks that stand beyond the last column are dropped in the end (`crop`).

Three ways of showing a text come out of this: as a paragraph that is laid out and ends its line
(`paragraph`), as a prompt that is laid out and leaves the line open (`prompt`), and as it is, on
lines of any length (`verbatim`).
-/

namespace Calculator.Console

/-- How many cells a line has. -/
def columns : Nat := 80

/-- How far apart the tab stops are. -/
def tabStop : Nat := 8

/-! ## Words -/

/-- Some texts that tabs stand between, with plain spaces up to the next tab stop in place of every
tab; the number is the column that they begin at. -/
def joinTabbed (column : Nat) : List (List Char) → List Char
  | [] => []
  | [last] => last
  | text :: rest =>
      let reached := column + Text.width (text ++ [' '])
      let gap := (tabStop - reached % tabStop) % tabStop
      text ++ ' ' :: List.replicate gap ' ' ++ joinTabbed (reached + gap) rest

/-- A line with plain spaces in place of its tabs. -/
def expandTabs (line : List Char) : List Char :=
  joinTabbed 0 (line.splitOn '\t')

/-- Whether a word goes on from one character to the next one: it ends where the next one begins. -/
def sameWord (a b : Char) : Bool :=
  !(Text.isBlank a && !Text.isBlank b)

/-- The words of a line. -/
def words (line : List Char) : List (List Char) :=
  match line.splitBy sameWord with
  | first :: second :: rest =>
      if first.all Text.isBlank then (first ++ second) :: rest else first :: second :: rest
  | pieces => pieces

/-- A word without the blanks behind it. -/
def solid (word : List Char) : List Char :=
  (word.reverse.dropWhile Text.isBlank).reverse

/-! ## Lines -/

/-- Clusters on lines that are full; the first line has begun. -/
def cut (line : List Text.Cluster) : List Text.Cluster → List (List Text.Cluster)
  | [] => [line]
  | cluster :: rest =>
      if Text.cellsOf line + cluster.cells ≤ columns then cut (line ++ [cluster]) rest
      else line :: cut [cluster] rest

/-- The lines of a word that is wider than a line. -/
def pieces (word : List Char) : List (List Char) :=
  (cut [] (Text.clusters word)).map Text.textOf

/-- The lines for some words, where the first line has begun and takes some cells. A word goes where
it fits without the blanks behind it. -/
def fill (line : List Char) (taken : Nat) : List (List Char) → List (List Char)
  | [] => [line]
  | word :: rest =>
      if taken + Text.width (solid word) ≤ columns then
        fill (line ++ word) (taken + Text.width word) rest
      else if Text.width (solid word) ≤ columns then line :: fill word (Text.width word) rest
      else
        let begun := if line.isEmpty then [] else [line]
        let last := (pieces word).getLast?.getD []
        begun ++ (pieces word).dropLast ++ fill last (Text.width last) rest

/-- A line without the blanks at its end, as far as these make it longer than the number of columns.
-/
def dropExcess (line : List Char) : List Char :=
  let blanks := line.length - (solid line).length
  line.take (line.length - min blanks (line.length - columns))

/-- The text of the clusters that fit into some room; half a cluster is an empty cell. -/
def crop (room : Nat) : List Text.Cluster → List Char
  | [] => []
  | cluster :: rest =>
      if cluster.cells ≤ room then cluster.text ++ crop (room - cluster.cells) rest
      else List.replicate (min room 1) ' '

/-- A line without what stands beyond the last column. -/
def trimmed (line : List Char) : List Char :=
  let kept := dropExcess line
  if Text.width kept ≤ columns then kept else crop columns (Text.clusters kept)

/-- The lines that a console makes of one line of a text. -/
def lay (line : List Char) : List (List Char) :=
  (fill [] 0 (words (expandTabs line))).map trimmed

/-- A text as a console lays it out. -/
def layout (text : List Char) : List Char :=
  List.intercalate ['\n'] ((text.splitOn '\n').flatMap lay)

/-! ## What is shown -/

/-- What a console shows of a text on lines of its own. -/
def paragraph (text : String) : String :=
  String.ofList (layout (literal text.toList) ++ ['\n'])

/-- What a console shows of a text that leaves the line open. -/
def prompt (text : String) : String :=
  String.ofList (layout (literal text.toList))

/-- What a console shows of a text on lines of any length. -/
def verbatim (text : String) : String :=
  String.ofList (literal text.toList ++ ['\n'])

/-! ## Lines that fit -/

/-- A cut loses nothing. -/
theorem flatten_cut (line clusters : List Text.Cluster) :
    (cut line clusters).flatten = line ++ clusters := by
  induction clusters generalizing line with
  | nil => simp [cut]
  | cons cluster rest ih =>
      simp only [cut]
      split <;> simp [ih]

/-- The pieces of a word make up the word. -/
theorem flatten_pieces (word : List Char) : (pieces word).flatten = word := by
  have joined (lines : List (List Text.Cluster)) :
      (lines.map Text.textOf).flatten = Text.textOf lines.flatten := by
    induction lines with
    | nil => rfl
    | cons line rest ih => simp_all [Text.textOf]
  rw [pieces, joined, flatten_cut, List.nil_append, Text.textOf_clusters]

/-- No part of a cut takes more cells than a line has. -/
theorem cellsOf_le_of_mem_cut {line clusters part : List Text.Cluster}
    (h : Text.cellsOf line ≤ columns) (narrow : ∀ cluster ∈ clusters, cluster.cells ≤ columns)
    (m : part ∈ cut line clusters) : Text.cellsOf part ≤ columns := by
  induction clusters generalizing line with
  | nil => simp only [cut, List.mem_singleton] at m; exact m ▸ h
  | cons cluster rest ih =>
      have one : Text.cellsOf [cluster] = cluster.cells := by simp [Text.cellsOf]
      have later := fun other mem => narrow other (List.mem_cons_of_mem cluster mem)
      simp only [cut] at m
      split at m
      · exact ih (by simpa [one] using ‹_›) later m
      · rcases List.mem_cons.1 m with rfl | m
        · exact h
        · exact ih (by rw [one]; exact narrow cluster (List.mem_cons_self ..)) later m

/-- No line of a word that is cut takes more cells than a line has. -/
theorem cellsOf_le_of_mem_cut_clusters {word : List Char} {part : List Text.Cluster}
    (m : part ∈ cut [] (Text.clusters word)) : Text.cellsOf part ≤ columns :=
  cellsOf_le_of_mem_cut (show Text.cellsOf [] ≤ columns from Nat.zero_le columns)
    (fun _ mem => Nat.le_trans (Text.cells_le_three_of_mem_clusters mem) (by decide)) m

/-- Words that fit on the line without the blanks behind them stay on it. -/
theorem fill_cons_of_fits {line word : List Char} {taken : Nat} (rest : List (List Char))
    (h : taken + Text.width (solid word) ≤ columns) :
    fill line taken (word :: rest) = fill (line ++ word) (taken + Text.width word) rest := by
  simp [fill, h]

/-- A line that is not longer than the number of columns keeps its blanks. -/
theorem dropExcess_eq_self {line : List Char} (h : line.length ≤ columns) :
    dropExcess line = line := by
  have none : line.length - columns = 0 := by omega
  simp [dropExcess, none]

/-- A line that fits stays as it is. -/
theorem trimmed_eq_self {line : List Char} (short : line.length ≤ columns)
    (fits : Text.width line ≤ columns) : trimmed line = line := by
  simp [trimmed, dropExcess_eq_self short, fits]

end Calculator.Console
