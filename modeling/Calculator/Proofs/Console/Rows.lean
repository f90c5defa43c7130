import Mathlib.Algebra.GroupWithZero.Nat
import Mathlib.Data.List.SplitBy
import Mathlib.Tactic.Common
import Calculator.Console.Layout

/-!
# The rows of a console

What a console makes of three sorts of text, out of which all that an evaluation shows is made.

* A text that fits is shown as it is: `layout_of_room`. How much a text takes at most is counted by
  its characters (`room`), so that joiners and pictures need no care.
* A text of **visible** characters, with no blank among them, is one word. It is broken after every
  eightieth character, wherever that is: `layout_of_isVisible` and `BreaksInto`.
* A word that does not fit behind the words in front of it goes to the rows below, and the first row
  is what stands in front: `layout_of_long_word`.

Before that a text goes through the console's markup, which leaves it alone if it has no brackets or
no backslashes, and no character that is dropped (`literal_eq_self`).
-/

namespace Calculator.Console

/-! ## Characters -/

/-- Whether a character is visible: one of those of ASCII that leave a mark. -/
def IsVisible (c : Char) : Prop :=
  0x20 < c.toNat ∧ c.toNat < 0x7f

/-- Every visible character takes one cell. -/
lemma IsVisible.cells {c : Char} (h : IsVisible c) : Text.cells c = 1 := by
  unfold IsVisible at h
  rw [Text.cells, if_pos h.2, if_pos (by omega)]

/-- No visible character is a joiner. -/
lemma IsVisible.ne_joiner {c : Char} (h : IsVisible c) : c ≠ Text.joiner := by
  rintro rfl
  exact absurd h.2 (by decide)

/-- No visible character is a selector. -/
lemma IsVisible.ne_pictureSelector {c : Char} (h : IsVisible c) : c ≠ Text.pictureSelector := by
  rintro rfl
  exact absurd h.2 (by decide)

/-- No visible character is blank. -/
lemma IsVisible.isBlank_eq_false {c : Char} (h : IsVisible c) : Text.isBlank c = false := by
  obtain ⟨low, high⟩ := h
  simp only [Text.isBlank, Text.isWhiteSpace, Bool.or_eq_false_iff, Bool.and_eq_false_iff,
    decide_eq_false_iff_not, beq_eq_false_iff_ne, ne_eq]
  omega

/-- Neither controls nor blanks occur in a text of visible characters. -/
lemma notMem_of_isVisible {text : List Char} (h : ∀ c ∈ text, IsVisible c) {c : Char}
    (low : c.toNat ≤ 0x20) : c ∉ text :=
  fun hc => absurd (h c hc).1 (Nat.not_lt.mpr low)

/-- A text of visible characters is as wide as it is long. -/
lemma width_of_isVisible {text : List Char} (h : ∀ c ∈ text, IsVisible c) :
    Text.width text = text.length := by
  have after (last : Option Char) : Text.widthAfter false last text = text.length := by
    induction text generalizing last with
    | nil => rfl
    | cons c rest ih =>
        obtain ⟨first, later⟩ := List.forall_mem_cons.mp h
        rw [Text.widthAfter, if_neg (by decide), if_neg first.ne_joiner,
          if_neg first.ne_pictureSelector, ih later, first.cells, List.length_cons, Nat.add_comm]
  exact after none

/-- The cells that a text takes at most: one for every character of ASCII, and two for any other. -/
def room : List Char → Nat
  | [] => 0
  | c :: rest => (if c.toNat < 0x7f then 1 else 2) + room rest

/-- The room of a text is the room of its parts. -/
@[simp] lemma room_append (first second : List Char) :
    room (first ++ second) = room first + room second := by
  induction first with
  | nil => simp [room]
  | cons c rest ih => simp [room, ih, Nat.add_assoc]

/-- A text has room for each of its characters. -/
lemma length_le_room (text : List Char) : text.length ≤ room text := by
  induction text with
  | nil => exact le_rfl
  | cons c rest ih =>
      rw [room, List.length_cons]
      split_ifs <;> omega

/-- No character needs more room than two cells. -/
lemma room_le (text : List Char) : room text ≤ 2 * text.length := by
  induction text with
  | nil => exact le_rfl
  | cons c rest ih =>
      rw [room, List.length_cons]
      split_ifs <;> omega

/-- Characters of ASCII need no more than one. -/
lemma room_of_ascii {text : List Char} (h : ∀ c ∈ text, c.toNat < 0x7f) :
    room text = text.length := by
  induction text with
  | nil => rfl
  | cons c rest ih =>
      obtain ⟨first, later⟩ := List.forall_mem_cons.mp h
      rw [room, if_pos first, ih later, List.length_cons, Nat.add_comm]

/-- **A text takes no more cells than its room.** -/
lemma width_le_room (text : List Char) : Text.width text ≤ room text := by
  have after (joined : Bool) (last : Option Char) :
      Text.widthAfter joined last text ≤ room text := by
    induction text generalizing joined last with
    | nil => exact le_rfl
    | cons c rest ih =>
        have wide : Text.cells c ≤ if c.toNat < 0x7f then 1 else 2 := by
          by_cases ascii : c.toNat < 0x7f
          · rw [if_pos ascii, Text.cells, if_pos ascii]
            split_ifs <;> omega
          · rw [if_neg ascii]
            exact Text.cells_le_two c
        have one : 1 ≤ if c.toNat < 0x7f then 1 else 2 := by split_ifs <;> decide
        rw [Text.widthAfter, room]
        generalize (if c.toNat < 0x7f then 1 else 2) = most at wide one ⊢
        split_ifs with hjoined hjoiner hselector
        · exact (ih false last).trans (Nat.le_add_left _ _)
        · exact (ih true last).trans (Nat.le_add_left _ _)
        · have gain := Text.pictureGain_le_one last
          have later := ih false none
          omega
        · have later := ih false (Text.lastShown last c)
          omega
  exact after false none

/-! ## Markup -/

/-- Without an opening bracket there is no tag. -/
lemma tagLength?_eq_none {text : List Char} (h : '[' ∉ text) : tagLength? text = none := by
  unfold tagLength?
  split
  · exact absurd List.mem_cons_self h
  · rfl

/-- Without opening brackets there is nothing to take away. -/
lemma shownFrom_of_no_bracket {text : List Char} (keep : Nat) (h : '[' ∉ text) :
    shownFrom keep text = text := by
  induction text generalizing keep with
  | nil => cases keep <;> rfl
  | cons c rest ih =>
      have hrest : '[' ∉ rest := fun m => h (List.mem_cons_of_mem c m)
      cases keep with
      | succ keep => rw [shownFrom, ih keep hrest]
      | zero =>
          have head : rest.head? ≠ some '[' := fun e => hrest (List.mem_of_mem_head? e)
          have behind (n : Nat) : '[' ∉ rest.drop n := fun m => hrest (List.mem_of_mem_drop m)
          simp only [shownFrom, tagLength?_eq_none (behind _), tagLength?_eq_none h, if_neg head,
            ih 0 hrest, ite_self]

/-- **The markup leaves a text alone** that has no brackets or no backslashes, does not end in a
backslash, and has no character that is dropped. -/
lemma literal_eq_self {text : List Char} (plain : '[' ∉ text ∨ Text.backslash ∉ text)
    (ending : text.getLast? ≠ some Text.backslash) (kept : ∀ c ∈ text, isDropped c = false) :
    literal text = text := by
  have single : endsInLoneBackslash text = false := by
    unfold endsInLoneBackslash
    rw [← List.head?_reverse] at ending
    split
    · rfl
    · rename_i c rest hreverse
      rw [hreverse, List.head?_cons] at ending
      have other : c ≠ Text.backslash := fun e => ending (congrArg some e)
      simp [other]
  have shown : shownFrom 0 text = text := by
    rcases plain with h | h
    · exact shownFrom_of_no_bracket 0 h
    · exact shownFrom_eq_self 0 h
  rw [literal, single]
  simp only [Bool.false_eq_true, if_false, shown]
  rw [List.filter_eq_self]
  intro c hc
  rw [kept c hc]
  rfl

/-! ## Words -/

/-- A line without tabs stays as it is. -/
lemma expandTabs_eq_self {line : List Char} (h : '\t' ∉ line) : expandTabs line = line := by
  rw [expandTabs, List.splitOn_eq_singleton h, joinTabbed]

/-- The words of a line make up the line. -/
lemma flatten_words (line : List Char) : (words line).flatten = line := by
  have whole := List.flatten_splitBy sameWord line
  unfold words
  split
  · rename_i first second rest hpieces
    rw [hpieces] at whole
    split_ifs
    · simpa using whole
    · exact whole
  · exact whole

/-- Without blanks, a text is one word. -/
lemma splitBy_of_isVisible {text : List Char} (some : text ≠ [])
    (h : ∀ c ∈ text, IsVisible c) : text.splitBy sameWord = [text] := by
  apply List.splitBy_of_isChain some
  have all (c d : Char) (hc : c ∈ text) : sameWord c d = true := by
    simp [sameWord, (h c hc).isBlank_eq_false]
  exact (List.pairwise_of_forall_mem_list fun c hc d _ => all c d hc).isChain

/-- A text of visible characters has nothing to leave out at its end. -/
lemma solid_of_isVisible {text : List Char} (h : ∀ c ∈ text, IsVisible c) : solid text = text := by
  cases hreverse : text.reverse with
  | nil =>
      rw [List.reverse_eq_nil_iff.mp hreverse]
      rfl
  | cons c rest =>
      have hc : c ∈ text := List.mem_reverse.mp (hreverse ▸ List.mem_cons_self)
      rw [solid, hreverse, List.dropWhile_cons_of_neg (by simp [(h c hc).isBlank_eq_false]),
        ← hreverse, List.reverse_reverse]

/-- The part of a word that needs room is no longer than the word. -/
lemma room_solid_le (word : List Char) : room (solid word) ≤ room word := by
  have whole : word = solid word ++ (word.reverse.takeWhile Text.isBlank).reverse := by
    rw [solid, ← List.reverse_append, List.takeWhile_append_dropWhile, List.reverse_reverse]
  have parts := congrArg room whole
  rw [room_append] at parts
  omega

/-! ## Lines -/

/-- **Words that have room on the line stay on it.** -/
lemma fill_of_room (front : List (List Char)) (line : List Char) (taken : Nat)
    (h : taken + room front.flatten ≤ columns) (rest : List (List Char)) :
    fill line taken (front ++ rest) =
      fill (line ++ front.flatten) (taken + (front.map Text.width).sum) rest := by
  induction front generalizing line taken with
  | nil => simp
  | cons word front ih =>
      rw [List.flatten_cons, room_append] at h
      have wide := width_le_room word
      have fits : taken + Text.width (solid word) ≤ columns := by
        have needed := (width_le_room (solid word)).trans (room_solid_le word)
        omega
      rw [List.cons_append, fill_cons_of_fits _ fits, ih _ _ (by omega)]
      simp [Nat.add_assoc]

/-- A line that has room on the console is one row. -/
lemma lay_of_room {line : List Char} (noTab : '\t' ∉ line) (h : room line ≤ columns) :
    lay line = [line] := by
  have filled := fill_of_room (words line) [] 0
    (by rwa [flatten_words, Nat.zero_add]) []
  rw [List.append_nil, flatten_words, List.nil_append, fill] at filled
  rw [lay, expandTabs_eq_self noTab, filled, List.map_singleton,
    trimmed_eq_self ((length_le_room line).trans h) ((width_le_room line).trans h)]

/-- **A text that has room on one row is laid out as it is.** -/
lemma layout_of_room {text : List Char} (noBreak : '\n' ∉ text) (noTab : '\t' ∉ text)
    (h : room text ≤ columns) : layout text = text := by
  rw [layout, List.splitOn_eq_singleton noBreak, List.flatMap_singleton, lay_of_room noTab h]
  exact List.intercalate_singleton ..

/-! ## Long words -/

/-- A text that is broken into rows: all but the last one are full, and none is empty. -/
structure BreaksInto (text : List Char) (rows : List (List Char)) : Prop where
  /-- Nothing is lost and nothing added. -/
  flatten : rows.flatten = text
  /-- All rows but the last one are full. -/
  full : ∀ row ∈ rows.dropLast, row.length = columns
  /-- The last row is not empty, and it fits. -/
  last : ∀ row ∈ rows.getLast?, 0 < row.length ∧ row.length ≤ columns

/-- A text that is not empty has one row exactly if it fits. -/
lemma BreaksInto.eq_singleton_iff {text : List Char} {rows : List (List Char)}
    (h : BreaksInto text rows) (some : text ≠ []) : rows = [text] ↔ text.length ≤ columns := by
  constructor
  · rintro rfl
    exact (h.last text rfl).2
  · intro fits
    match rows, h with
    | [], h => exact absurd h.flatten.symm some
    | [row], h =>
        rw [← h.flatten]
        simp
    | first :: second :: rest, h =>
        have full := h.full first (by simp)
        obtain ⟨last, hlast⟩ :=
          Option.isSome_iff_exists.mp (List.getLast?_isSome.mpr (List.cons_ne_nil second rest))
        have positive := (h.last last (by rw [List.getLast?_cons_cons, hlast]; rfl)).1
        have inside : last.length ≤ (second :: rest).flatten.length :=
          (List.sublist_flatten_of_mem (List.mem_of_getLast? hlast)).length_le
        have whole := congrArg List.length h.flatten
        rw [List.flatten_cons, List.length_append] at whole
        omega

/-- Rows with line ends between them are the text exactly if it fits on one row. -/
lemma BreaksInto.intercalate_eq_iff {text : List Char} {rows : List (List Char)}
    (h : BreaksInto text rows) (some : text ≠ []) (noBreak : '\n' ∉ text) :
    List.intercalate ['\n'] rows = text ↔ text.length ≤ columns := by
  rw [← h.eq_singleton_iff some]
  constructor
  · intro same
    match rows, h with
    | [], h => exact absurd h.flatten.symm some
    | [row], h =>
        rw [← h.flatten]
        simp
    | first :: second :: rest, h =>
        refine absurd ?_ noBreak
        rw [← same, List.intercalate_cons_cons]
        simp
  · rintro rfl
    exact List.intercalate_singleton ..

/-- A visible character as a cluster of its own. -/
def single (c : Char) : Text.Cluster :=
  ⟨[c], 1⟩

/-- In a text of visible characters, every character is a cluster of its own. -/
lemma clusters_of_isVisible {text : List Char} (h : ∀ c ∈ text, IsVisible c) :
    Text.clusters text = text.map single := by
  have after (current : Text.Cluster) (last : Option Char) (text : List Char)
      (h : ∀ c ∈ text, IsVisible c) :
      Text.clustersAfter current false last text = current :: text.map single := by
    induction text generalizing current last with
    | nil => rfl
    | cons c rest ih =>
        obtain ⟨first, later⟩ := List.forall_mem_cons.mp h
        rw [Text.clustersAfter, if_neg (by decide), if_neg first.ne_joiner,
          if_neg first.ne_pictureSelector, first.cells, if_neg (by decide), ih _ _ later]
        rfl
  cases text with
  | nil => rfl
  | cons c rest =>
      obtain ⟨first, later⟩ := List.forall_mem_cons.mp h
      rw [Text.clusters, first.cells, after _ _ rest later]
      rfl

/-- Characters that are clusters of their own take one cell each. -/
lemma cellsOf_single (text : List Char) : Text.cellsOf (text.map single) = text.length := by
  induction text with
  | nil => rfl
  | cons c rest ih => rw [List.map_cons, Text.cellsOf, ih, single, List.length_cons, Nat.add_comm]

/-- Characters that are clusters of their own make up their text. -/
lemma textOf_single (text : List Char) : Text.textOf (text.map single) = text := by
  induction text with
  | nil => rfl
  | cons c rest ih =>
      rw [List.map_cons, Text.textOf, List.flatMap_cons, ← Text.textOf, ih]
      rfl

/-- Visible characters are put on a row until it is full, and then on the next one. -/
lemma breaksInto_cut (line text : List Char) (some : line ++ text ≠ [])
    (h : line.length ≤ columns) :
    BreaksInto (line ++ text) ((cut (line.map single) (text.map single)).map Text.textOf) := by
  have one : 1 ≤ columns := by decide
  induction text generalizing line with
  | nil =>
      rw [List.append_nil] at some ⊢
      have row : (cut (line.map single) ([].map single)).map Text.textOf = [line] := by
        simp [cut, textOf_single]
      rw [row]
      exact ⟨by simp, by simp, by simpa using ⟨List.length_pos_of_ne_nil some, h⟩⟩
  | cons c rest ih =>
      rw [List.map_cons, cut, cellsOf_single]
      split_ifs with fits
      · have longer : line.map single ++ [single c] = (line ++ [c]).map single := by simp
        have short : (line ++ [c]).length ≤ columns := by
          rw [List.length_append, List.length_singleton]
          exact fits
        rw [longer, List.append_cons]
        exact ih (line ++ [c]) (by simp) short
      · have filled : line.length = columns := by
          have : (single c).cells = 1 := rfl
          omega
        have later := ih [c] (by simp) one
        have begun : cut [single c] (rest.map single) ≠ [] := by
          intro nothing
          have lost := flatten_cut [single c] (rest.map single)
          rw [nothing] at lost
          cases lost
        obtain ⟨row, rows, hrows⟩ := List.exists_cons_of_ne_nil begun
        rw [List.map_singleton, hrows] at later
        rw [List.map_cons, textOf_single, hrows]
        constructor
        · rw [List.flatten_cons, later.flatten]
          rfl
        · rw [List.map_cons, List.dropLast_cons_cons]
          exact List.forall_mem_cons.mpr ⟨filled, later.full⟩
        · rw [List.map_cons, List.getLast?_cons_cons]
          exact later.last

/-- Rows of visible characters that fit are kept as they are. -/
lemma map_trimmed_eq_self {rows : List (List Char)}
    (h : ∀ row ∈ rows, row.length ≤ columns ∧ ∀ c ∈ row, IsVisible c) :
    rows.map trimmed = rows := by
  have same : ∀ row ∈ rows, trimmed row = id row := by
    intro row hrow
    obtain ⟨short, visible⟩ := h row hrow
    exact trimmed_eq_self short (width_of_isVisible visible ▸ short)
  rw [List.map_congr_left same, List.map_id]

/-- No row of a broken text is longer than a row of the console. -/
lemma BreaksInto.length_le {text : List Char} {rows : List (List Char)} (h : BreaksInto text rows)
    {row : List Char} (hrow : row ∈ rows) : row.length ≤ columns := by
  have some : rows ≠ [] := List.ne_nil_of_mem hrow
  rw [← List.dropLast_append_getLast some, List.mem_append, List.mem_singleton] at hrow
  rcases hrow with inner | rfl
  · exact (h.full row inner).le
  · exact (h.last _ (List.getLast?_eq_some_getLast some)).2

/-- **A line of visible characters is broken wherever a row is full.** -/
lemma lay_of_isVisible {text : List Char} (some : text ≠ []) (h : ∀ c ∈ text, IsVisible c) :
    BreaksInto text (lay text) := by
  have noTab : '\t' ∉ text := notMem_of_isVisible h (by decide)
  have oneWord : words text = [text] := by
    unfold words
    rw [splitBy_of_isVisible some h]
  have filled : BreaksInto text (fill [] 0 [text]) := by
    have width : Text.width (solid text) = text.length := by
      rw [solid_of_isVisible h, width_of_isVisible h]
    by_cases fits : text.length ≤ columns
    · rw [fill, if_pos (by rw [width]; omega), fill]
      exact ⟨by simp, by simp, by simpa using ⟨List.length_pos_of_ne_nil some, fits⟩⟩
    · have broken := breaksInto_cut [] text some (by decide)
      rw [List.nil_append, List.map_nil, ← clusters_of_isVisible h] at broken
      have rows : pieces text ≠ [] := by
        intro nothing
        have lost := flatten_pieces text
        rw [nothing] at lost
        exact some lost.symm
      rw [fill, if_neg (by rw [width]; omega), if_neg (by rw [width]; omega)]
      simp only [List.isEmpty_nil, if_true, List.nil_append, fill]
      rw [List.getLast?_eq_some_getLast rows, Option.getD_some, List.dropLast_append_getLast]
      exact broken
  have kept : (fill [] 0 [text]).map trimmed = fill [] 0 [text] := by
    apply map_trimmed_eq_self
    intro row hrow
    refine ⟨filled.length_le hrow, fun c hc => h c ?_⟩
    rw [← filled.flatten]
    exact List.mem_flatten_of_mem hrow hc
  rw [lay, expandTabs_eq_self noTab, oneWord, kept]
  exact filled

/-- **A text of visible characters is broken wherever a row is full.** -/
lemma layout_of_isVisible {text : List Char} (some : text ≠ []) (h : ∀ c ∈ text, IsVisible c) :
    ∃ rows, BreaksInto text rows ∧ layout text = List.intercalate ['\n'] rows := by
  have noBreak : '\n' ∉ text := notMem_of_isVisible h (by decide)
  refine ⟨lay text, lay_of_isVisible some h, ?_⟩
  rw [layout, List.splitOn_eq_singleton noBreak, List.flatMap_singleton]

/-- A visible text behind a blank is a word of its own. -/
lemma words_append {front word first : List Char} {more : List (List Char)}
    (pieces : front.splitBy sameWord = first :: more) (begun : first.all Text.isBlank = false)
    (ends : front.getLast?.all Text.isBlank = true) (some : word ≠ [])
    (h : ∀ c ∈ word, IsVisible c) : words (front ++ word) = first :: more ++ [word] := by
  have apart : ∀ x ∈ front.getLast?, ∀ y ∈ word.head?, sameWord x y = false := by
    intro x hx y hy
    have blank : Text.isBlank x = true := by
      rwa [Option.mem_def.mp hx, Option.all_some] at ends
    simp [sameWord, blank, (h y (List.mem_of_mem_head? hy)).isBlank_eq_false]
  have all : (front ++ word).splitBy sameWord = first :: more ++ [word] := by
    rw [List.splitBy_append apart, pieces, splitBy_of_isVisible some h]
  unfold words
  rw [all]
  cases more with
  | nil => simp [begun]
  | cons second rest => simp [begun]

/-- **A long word leaves the row to the words in front of it**, if there is no room for it behind
them. -/
lemma layout_of_long_word {front word first : List Char} {more : List (List Char)}
    (pieces : front.splitBy sameWord = first :: more) (begun : first.all Text.isBlank = false)
    (ends : front.getLast?.all Text.isBlank = true) (noBreak : '\n' ∉ front)
    (noTab : '\t' ∉ front) (fits : room front ≤ columns) (h : ∀ c ∈ word, IsVisible c)
    (long : columns < ((first :: more).map Text.width).sum + word.length) (some : word ≠ []) :
    ∃ below, layout (front ++ word) = front ++ '\n' :: below := by
  have together : (first :: more).flatten = front := by rw [← pieces, List.flatten_splitBy]
  have noBreaks : '\n' ∉ front ++ word :=
    fun m => (List.mem_append.mp m).elim noBreak (notMem_of_isVisible h (by decide))
  have noTabs : '\t' ∉ front ++ word :=
    fun m => (List.mem_append.mp m).elim noTab (notMem_of_isVisible h (by decide))
  have width : Text.width (solid word) = word.length := by
    rw [solid_of_isVisible h, width_of_isVisible h]
  have filled := fill_of_room (first :: more) [] 0
    (by rwa [together, Nat.zero_add]) [word]
  rw [together, List.nil_append, Nat.zero_add] at filled
  have rows : ∃ row later, fill [] 0 (first :: more ++ [word]) = front :: row :: later := by
    have notEmpty : front.isEmpty = false := by
      rw [List.isEmpty_eq_false_iff]
      rintro rfl
      cases pieces
    rw [filled, fill, if_neg (by rw [width]; omega)]
    by_cases onOne : Text.width (solid word) ≤ columns
    · rw [if_pos onOne]
      exact ⟨word, [], rfl⟩
    · obtain ⟨row, later, hlater⟩ := List.exists_cons_of_ne_nil
        (List.concat_ne_nil ((Console.pieces word).getLast?.getD []) (Console.pieces word).dropLast)
      rw [if_neg onOne]
      simp only [notEmpty, Bool.false_eq_true, if_false, fill, List.cons_append, List.nil_append]
      exact ⟨row, later, congrArg (front :: ·) hlater⟩
  obtain ⟨row, later, hrows⟩ := rows
  refine ⟨List.intercalate ['\n'] ((row :: later).map trimmed), ?_⟩
  rw [layout, List.splitOn_eq_singleton noBreaks, List.flatMap_singleton, lay,
    expandTabs_eq_self noTabs, words_append pieces begun ends some h, hrows, List.map_cons,
    trimmed_eq_self ((length_le_room front).trans fits) ((width_le_room front).trans fits),
    List.map_cons, List.intercalate_cons_cons, List.append_assoc]
  rfl

end Calculator.Console
