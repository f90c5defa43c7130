/-!
# Line ends

A line ends with a line feed, a carriage return, or the two in this order. `unifyLineEnds` writes
every one of them as a line feed. `lines` gives the lines of a text without their ends; what follows
the last line end is a line only if it is not empty.
-/

namespace Calculator.Text

/-- The text with a line feed for every line end. -/
def unifyLineEnds : List Char → List Char
  | '\r' :: '\n' :: rest => '\n' :: unifyLineEnds rest
  | '\r' :: rest => '\n' :: unifyLineEnds rest
  | c :: rest => c :: unifyLineEnds rest
  | [] => []

/-- The lines of a text. -/
def lines (text : List Char) : List (List Char) :=
  let pieces := (unifyLineEnds text).splitOn '\n'
  if pieces.getLast? = some [] then pieces.dropLast else pieces

/-- No carriage return is left. -/
theorem carriageReturn_notMem_unifyLineEnds (text : List Char) : '\r' ∉ unifyLineEnds text := by
  fun_induction unifyLineEnds text with
  | case1 rest ih => simp [ih]
  | case2 rest _ ih => simp [ih]
  | case3 c rest _ notReturn ih =>
      intro h
      rcases List.mem_cons.1 h with rfl | h
      · exact notReturn rfl
      · exact ih h
  | case4 => simp

end Calculator.Text
