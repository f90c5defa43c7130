import Calculator.Toml.Composite

/-!
# Settings files

A settings file is a sequence of lines, of which each declares a table, appends a table to an array,
or assigns a value to a key; blank lines and comments may stand anywhere between (`script`). The
lines are then carried out one after another on a growing document (`Progress.step?`). Of all that
is wrong with a file, what stands first in it is reported (`parse`).
-/

namespace Calculator.Toml

open Document

/-- A line of a settings file. -/
inductive Line
  /-- The header of a table. -/
  | declare (key : List String)
  /-- The header of a table in an array of tables. -/
  | append (key : List String)
  /-- A key with its value. -/
  | assign (key : List String) (value : Value)

/-- A header between brackets, read from behind its opening brackets. -/
def header? (closing : List Char) (make : List String → Line) (text : List Char) :
    Option (Reading Line text) :=
  (key? (text.dropWhile isGap)).bind fun key =>
    (expect? ']' closing key.rest).map fun close =>
      ⟨make key.value, close.rest, Nat.lt_of_lt_of_le (Nat.lt_trans close.shorter key.shorter)
        (length_dropWhile_le isGap text)⟩

/-- A line, without what may follow it; `room` is there for the calls that read its value. -/
def line (room : Nat) (text : List Char) : Except Defect (Reading Line text) :=
  match text with
  | '[' :: '[' :: rest => wellFormed ((header? [']'] .append rest).map fun r => r.behind.behind)
  | '[' :: rest => wellFormed ((header? [] .declare rest).map .behind)
  | text =>
      (wellFormed (keyEquals? text)).bind fun key =>
        (value room key.rest).map fun value =>
          (value.map (.assign key.value)).widen (Nat.le_of_lt key.shorter)

/-- Lines end at a line feed, or at a carriage return and a line feed. -/
def dropReturns : List Char → List Char
  | '\r' :: '\n' :: rest => '\n' :: dropReturns rest
  | c :: rest => c :: dropReturns rest
  | [] => []

/-- The lines of a text, up to the first one that is not a line. -/
structure Script where
  /-- The lines. -/
  lines : List Line
  /-- What is wrong behind them, if anything is. -/
  defect : Option Defect

/-- A script with one more line at its front. -/
def Script.cons (line : Line) (script : Script) : Script :=
  { script with lines := line :: script.lines }

/-- The script of a text. -/
def script (room : Nat) (text : List Char) : Script :=
  match h : text.dropWhile isGap with
  | [] => ⟨[], none⟩
  | c :: rest =>
      have shorter : rest.length < text.length := by
        have := length_dropWhile_le isGap text
        rw [h] at this
        exact this
      if c = '\n' then script room rest
      else if c = '#' then
        if (rest.takeWhile (· ≠ '\n')).any (isForbidden false) then ⟨[], some .malformed⟩
        else script room (rest.dropWhile (· ≠ '\n'))
      else
        match line room (c :: rest) with
        | .error defect => ⟨[], some defect⟩
        | .ok line =>
            match afterComment? (line.skip isGap).rest with
            | none => ⟨[line.value], some .malformed⟩
            | some ending =>
                match hend : ending.1 with
                | [] => ⟨[line.value], none⟩
                | '\n' :: later =>
                    have less : later.length < text.length := by
                      have le := ending.2
                      have lt := (line.skip isGap).shorter
                      rw [hend] at le
                      simp only [List.length_cons] at le lt
                      omega
                    (script room later).cons line.value
                | _ => ⟨[line.value], some .malformed⟩
termination_by text.length
decreasing_by
  · exact shorter
  · exact Nat.lt_of_le_of_lt (length_dropWhile_le _ rest) shorter
  · exact less

/-- How far a file has been carried out. -/
structure Progress where
  /-- The document so far. -/
  entries : Entries
  /-- The key of the last header. -/
  way : List String
  /-- How many headers there were. -/
  headers : Nat

namespace Progress

/-- Nothing has been carried out. -/
def start : Progress := ⟨[], [], 0⟩

/-- Carry out one line. -/
def step? (progress : Progress) : Line → Option Progress
  | .declare key =>
      (progress.entries.declare? key).map fun entries => ⟨entries, key, progress.headers + 1⟩
  | .append key =>
      (progress.entries.append? key).map fun entries => ⟨entries, key, progress.headers + 1⟩
  | .assign key value =>
      (progress.entries.assign? progress.headers progress.way key value).map fun entries =>
        { progress with entries := entries }

end Progress

/-- The document of a settings file, if there is room for so many calls inside each other that read a
value. A line that contradicts the ones before it counts before what is wrong behind it. -/
def parse (room : Nat) (source : String) : Except Defect Table :=
  let script := script room (dropReturns source.toList)
  match script.lines.foldlM Progress.step? Progress.start, script.defect with
  | none, _ => .error .malformed
  | some _, some defect => .error defect
  | some progress, none => .ok (valuesOf progress.entries)

end Calculator.Toml
