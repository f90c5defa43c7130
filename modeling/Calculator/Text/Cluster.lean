import Calculator.Text.Columns

/-!
# Clusters of characters and the width of a text

A **cluster** is a run of characters that a screen shows in one place: a character that takes cells,
with the characters behind it that only change it (`clusters`).

* A character without a cell of its own belongs to the cluster before it.
* The **joiner** U+200D takes the character behind it into the cluster, and neither of the two takes
  a cell.
* The **selector** U+FE0F asks for the picture of the character before it. Where there is one and it
  is wider than the text, the cluster becomes one cell wider.

The **width** of a text is the number of cells that it takes (`width`). It is the width of its
clusters together, unless the text begins with a joiner (`cellsOf_clusters`). A cluster is never
divided, and the clusters of a text make up the text (`textOf_clusters`).
-/

namespace Calculator.Text

/-- The character that joins the one behind it to the one before it. -/
def joiner : Char := '\u200d'

/-- The character that asks for the picture of the one before it. -/
def pictureSelector : Char := '\ufe0f'

/-- How many more cells the picture of a character takes than its text. -/
def pictureGain : Option Char → Nat
  | none => 0
  | some c => if hasPicture c then 1 else 0

/-- The last character with cells, up to and with the given one. -/
def lastShown (last : Option Char) (c : Char) : Option Char :=
  if cells c = 0 then last else some c

/-! ## Width -/

/-- How many cells a text takes behind a last character with cells; a joiner may stand between. -/
def widthAfter (joined : Bool) (last : Option Char) : List Char → Nat
  | [] => 0
  | c :: rest =>
      if joined then widthAfter false last rest
      else if c = joiner then widthAfter true last rest
      else if c = pictureSelector then pictureGain last + widthAfter false none rest
      else cells c + widthAfter false (lastShown last c) rest

/-- How many cells a text takes. -/
def width (text : List Char) : Nat :=
  widthAfter false none text

/-- The empty text takes no cell. -/
@[simp] theorem width_nil : width [] = 0 := rfl

/-! ## Clusters -/

/-- A run of characters that is shown in one place. -/
structure Cluster where
  /-- The characters. -/
  text : List Char
  /-- How many cells they take. -/
  cells : Nat

/-- How many cells some clusters take. -/
def cellsOf : List Cluster → Nat
  | [] => 0
  | cluster :: rest => cluster.cells + cellsOf rest

/-- The cells of clusters add up. -/
@[simp] theorem cellsOf_append (first second : List Cluster) :
    cellsOf (first ++ second) = cellsOf first + cellsOf second := by
  induction first with
  | nil => simp [cellsOf]
  | cons cluster rest ih => simp [cellsOf, ih, Nat.add_assoc]

/-- The text of some clusters. -/
def textOf (clusters : List Cluster) : List Char :=
  clusters.flatMap Cluster.text

/-- A cluster with one more character, which makes it some cells wider. -/
def Cluster.extend (cluster : Cluster) (c : Char) (gain : Nat) : Cluster :=
  ⟨cluster.text ++ [c], cluster.cells + gain⟩

/-- The clusters of a text that continues an open cluster, behind a last character with cells; a
joiner may stand between. -/
def clustersAfter (current : Cluster) (joined : Bool) (last : Option Char) :
    List Char → List Cluster
  | [] => [current]
  | c :: rest =>
      if joined then clustersAfter (current.extend c 0) false last rest
      else if c = joiner then clustersAfter (current.extend c 0) true last rest
      else if c = pictureSelector then
        clustersAfter (current.extend c (pictureGain last)) false none rest
      else if cells c = 0 then clustersAfter (current.extend c 0) false last rest
      else current :: clustersAfter ⟨[c], cells c⟩ false (some c) rest

/-- The clusters of a text. A joiner or a selector at its beginning has nothing to change. -/
def clusters : List Char → List Cluster
  | [] => []
  | c :: rest => clustersAfter ⟨[c], cells c⟩ false (lastShown none c) rest

/-- Clusters that continue an open one make up what it has and what follows. -/
theorem textOf_clustersAfter (current : Cluster) (joined : Bool) (last : Option Char)
    (rest : List Char) :
    textOf (clustersAfter current joined last rest) = current.text ++ rest := by
  fun_induction clustersAfter current joined last rest <;>
    simp_all [textOf, Cluster.extend]

/-- The clusters of a text make up the text. -/
theorem textOf_clusters (text : List Char) : textOf (clusters text) = text := by
  cases text with
  | nil => rfl
  | cons c rest => simp [clusters, textOf_clustersAfter]

/-- Clusters that continue an open one take its cells and those of what follows. -/
theorem cellsOf_clustersAfter (current : Cluster) (joined : Bool) (last : Option Char)
    (rest : List Char) :
    cellsOf (clustersAfter current joined last rest) =
      current.cells + widthAfter joined last rest := by
  fun_induction clustersAfter current joined last rest <;>
    simp_all [cellsOf, widthAfter, Cluster.extend, lastShown, Nat.add_assoc]

/-- A character gains at most one cell as a picture. -/
theorem pictureGain_le_one (last : Option Char) : pictureGain last ≤ 1 := by
  unfold pictureGain
  split
  · exact Nat.zero_le 1
  · split <;> decide

/-- No cluster that continues an open one takes more than three cells, if the open one does not. -/
theorem cells_le_three_of_mem_clustersAfter {current cluster : Cluster} {joined : Bool}
    {last : Option Char} {rest : List Char} (h : current.cells + pictureGain last ≤ 3)
    (m : cluster ∈ clustersAfter current joined last rest) : cluster.cells ≤ 3 := by
  fun_induction clustersAfter current joined last rest with
  | case1 current joined last =>
      rw [List.mem_singleton.1 m]
      omega
  | case2 current last c rest ih => exact ih h m
  | case3 current joined last rest _ ih => exact ih h m
  | case4 current joined last rest _ _ ih => exact ih h m
  | case5 current joined last c rest _ _ _ _ ih => exact ih h m
  | case6 current joined last c rest _ _ _ _ ih =>
      rcases List.mem_cons.1 m with rfl | m
      · omega
      · have := cells_le_two c
        have := pictureGain_le_one (some c)
        exact ih (by simp only; omega) m

/-- No cluster takes more than three cells. -/
theorem cells_le_three_of_mem_clusters {text : List Char} {cluster : Cluster}
    (m : cluster ∈ clusters text) : cluster.cells ≤ 3 := by
  cases text with
  | nil => simp [clusters] at m
  | cons c rest =>
      have := cells_le_two c
      have := pictureGain_le_one (lastShown none c)
      exact cells_le_three_of_mem_clustersAfter (by simp only; omega) m

/-- A selector takes no cell of its own. -/
theorem cells_pictureSelector : cells pictureSelector = 0 := by decide

/-- The clusters of a text take as many cells as the text, unless it begins with a joiner. -/
theorem cellsOf_clusters {text : List Char} (h : text.head? ≠ some joiner) :
    cellsOf (clusters text) = width text := by
  cases text with
  | nil => rfl
  | cons c rest =>
      have notJoiner : c ≠ joiner := by simpa using h
      by_cases selector : c = pictureSelector
      · subst selector
        simp [clusters, cellsOf_clustersAfter, width, widthAfter, lastShown, pictureGain,
          cells_pictureSelector, notJoiner]
      · simp [clusters, cellsOf_clustersAfter, width, widthAfter, notJoiner, selector]

end Calculator.Text
