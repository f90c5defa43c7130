import Mathlib.Tactic.Common
import Calculator.Toml.File

/-!
# Room for the values of a settings file

The values of a settings file are read by calls inside each other, and there is room for only so many
of these. This has to do with the values that are inside each other and with nothing else.

* With more room, a file has the same document or the same defect, unless it was too deep before
  (`parse_of_le`). One round of calls is treated in `Grows.succ`, and the rest is an induction on the
  room.
* A file that is short for the room is not too deep (`parse_hasRoom`). One round of calls is treated
  in `Suffices.succ`.
* Both go from values to files line by line; in what ways a text begins is said once (`opens`).
* An array takes two places: arrays inside each other are too deep exactly if there are less than
  twice as many places (`value_nested_eq_tooDeep_iff`). So whatever the room is, there is a file that
  is too deep (`parse_openings`).
-/

namespace Calculator.Toml

open Document

/-! ## Results that depend on the room -/

/-- There was room for what was to be read. -/
def HasRoom {α : Type} (result : Except Defect α) : Prop :=
  result ≠ .error .tooDeep

/-- The second result is the first one, unless there was no room for the first one. -/
def Keeps {α : Type} (first second : Except Defect α) : Prop :=
  HasRoom first → second = first

section Results

variable {α β : Type} {first second : Except Defect α}

/-- What is read takes no room. -/
@[simp] lemma hasRoom_ok (a : α) : HasRoom (.ok a : Except Defect α) :=
  nofun

/-- A file that is not well formed may be read as far as that. -/
@[simp] lemma hasRoom_malformed : HasRoom (.error .malformed : Except Defect α) :=
  nofun

/-- Where a reader has no calls inside it, there is room. -/
@[simp] lemma hasRoom_wellFormed (result : Option α) : HasRoom (wellFormed result) := by
  cases result with
  | none => exact hasRoom_malformed
  | some a => exact hasRoom_ok a

/-- Two readers in a row have room if each one has. -/
lemma HasRoom.bind {next : α → Except Defect β} (h : HasRoom first)
    (later : ∀ a, HasRoom (next a)) : HasRoom (first.bind next) := by
  cases first with
  | error defect =>
      intro tooDeep
      cases tooDeep
      exact h rfl
  | ok a => exact later a

/-- What is made of a result makes no difference to the room. -/
lemma HasRoom.map (h : HasRoom first) (f : α → β) : HasRoom (first.map f) := by
  cases first with
  | error defect =>
      intro tooDeep
      cases tooDeep
      exact h rfl
  | ok a => exact hasRoom_ok (f a)

/-- A result is itself. -/
@[simp] lemma Keeps.refl (result : Except Defect α) : Keeps result result :=
  fun _ => rfl

/-- Two readers in a row come to the same if each one does. -/
lemma Keeps.bind {next next' : α → Except Defect β} (h : Keeps first second)
    (later : ∀ a, Keeps (next a) (next' a)) : Keeps (first.bind next) (second.bind next') := by
  intro fits
  cases first with
  | error defect =>
      have same : second = .error defect := h fun tooDeep => fits (by rw [tooDeep]; rfl)
      rw [same]
      rfl
  | ok a =>
      rw [h (hasRoom_ok a)]
      exact later a fits

/-- What is made of a result is the same if the result is. -/
lemma Keeps.map (h : Keeps first second) (f : α → β) : Keeps (first.map f) (second.map f) := by
  intro fits
  rw [h fun tooDeep => fits (by rw [tooDeep]; rfl)]

end Results

/-- Simple values take no room. -/
lemma hasRoom_scalar (text : List Char) : HasRoom (scalar text) := by
  have decimal_hasRoom {text : List Char} (number : Reading Value text) :
      HasRoom (decimal number) := by
    unfold decimal
    split
    · split_ifs
      · exact hasRoom_ok _
      · exact nofun
    · exact hasRoom_ok _
  unfold scalar
  split_ifs
  · exact hasRoom_wellFormed _
  · exact hasRoom_wellFormed _
  · split
    · exact hasRoom_ok _
    · split
      · exact hasRoom_wellFormed _
      · split
        · exact hasRoom_ok _
        · split
          · exact hasRoom_ok _
          · exact (hasRoom_wellFormed _).bind decimal_hasRoom

/-! ## More room for a value -/

/-- With more room, the readers come to the same. -/
structure Grows (room more : Nat) : Prop where
  /-- Of a value. -/
  value : ∀ text, Keeps (value room text) (value more text)
  /-- Of the items of an array. -/
  items : ∀ text, Keeps (items room text) (items more text)
  /-- Of an inline table. -/
  inline : ∀ text, Keeps (inline room text) (inline more text)
  /-- Of its entries. -/
  entries : ∀ before text, Keeps (entries room before text) (entries more before text)

variable {room more : Nat}

/-- Items come to the same if their values do, by induction on the text. -/
lemma keeps_items (h : ∀ text, Keeps (value room text) (value more text)) (text : List Char) :
    Keeps (items (room + 1) text) (items (more + 1) text) := by
  induction hn : text.length using Nat.strongRecOn generalizing text with
  | _ n ih =>
      subst hn
      rw [items, items, withRoom_succ, withRoom_succ]
      refine (Keeps.refl _).bind fun start => ?_
      obtain ⟨start, le⟩ := start
      dsimp only
      split
      · exact Keeps.refl _
      · refine (h start).bind fun _ => (Keeps.refl _).bind fun item => ?_
        obtain ⟨item, rest, shorter⟩ := item
        dsimp only
        split
        · exact Keeps.refl _
        · exact (ih _ (by simp at shorter; omega) _ rfl).map _
        · exact Keeps.refl _

/-- Entries come to the same if their values do, by induction on the text. -/
lemma keeps_entries (h : ∀ text, Keeps (value room text) (value more text)) (before : Entries)
    (text : List Char) :
    Keeps (entries (room + 1) before text) (entries (more + 1) before text) := by
  induction hn : text.length using Nat.strongRecOn generalizing before text with
  | _ n ih =>
      subst hn
      rw [entries, entries, withRoom_succ, withRoom_succ]
      refine (Keeps.refl _).bind fun key => (h key.rest).bind fun value =>
        (Keeps.refl _).bind fun all => ?_
      have later := (value.skip isGap).shorter
      have shorter := key.shorter
      dsimp only
      split
      next => exact Keeps.refl _
      next rest found =>
        have le := length_dropWhile_le isGap rest
        rw [found, List.length_cons] at later
        exact (ih _ (by omega) all _ rfl).map _
      next => exact Keeps.refl _

/-- **One round of calls**: with one place more on both sides, the readers still come to the same. -/
lemma Grows.succ (h : Grows room more) : Grows (room + 1) (more + 1) where
  value text := by
    rw [Toml.value, Toml.value, withRoom_succ, withRoom_succ]
    split
    · exact (h.items _).map _
    · exact (h.inline _).map _
    · exact Keeps.refl _
  items := keeps_items h.value
  inline text := by
    rw [Toml.inline, Toml.inline, withRoom_succ, withRoom_succ]
    split
    · exact Keeps.refl _
    · exact (h.entries _ _).map _
  entries := keeps_entries h.value

/-- Without room, nothing is read at all. -/
lemma grows_zero (more : Nat) : Grows 0 more where
  value text := by
    rw [value]
    exact fun fits => absurd rfl fits
  items text := by
    rw [items]
    exact fun fits => absurd rfl fits
  inline text := by
    rw [inline]
    exact fun fits => absurd rfl fits
  entries before text := by
    rw [entries]
    exact fun fits => absurd rfl fits

/-- **More room changes nothing about a value**, by induction on the room. -/
lemma grows_of_le (le : room ≤ more) : Grows room more := by
  induction room generalizing more with
  | zero => exact grows_zero more
  | succ room ih =>
      obtain ⟨more, rfl⟩ := Nat.exists_eq_add_one.mpr (Nat.lt_of_lt_of_le (Nat.succ_pos room) le)
      exact (ih (Nat.le_of_succ_le_succ le)).succ

/-! ## How a script begins -/

/-- What the beginning of a text makes of its script, with any room. -/
inductive Opens (text : List Char) : Prop
  /-- Nothing is left to be read. -/
  | ended (ending : Script) (fits : ending.defect ≠ some .tooDeep)
      (same : ∀ room, script room text = ending)
  /-- A blank line or a comment is passed over. -/
  | passed (rest : List Char) (less : rest.length < text.length)
      (same : ∀ room, script room text = script room rest)
  /-- A line is read. If it is one, the script ends with it or goes on behind it. -/
  | read (start : List Char) (le : start.length ≤ text.length)
      (stops : ∀ room defect, line room start = .error defect →
        script room text = ⟨[], some defect⟩)
      (goesOn : ∀ first, (∃ ending : Script, ending.defect ≠ some .tooDeep ∧
          ∀ room, line room start = .ok first → script room text = ending) ∨
        ∃ later : List Char, later.length < text.length ∧
          ∀ room, line room start = .ok first →
            script room text = (script room later).cons first.value)

/-- A text of blanks has no lines. -/
lemma script_of_nil {text : List Char} (found : text.dropWhile isGap = []) (room : Nat) :
    script room text = ⟨[], none⟩ := by
  rw [script]
  split
  next => rfl
  next c rest other => simp [found] at other

/-- What becomes of a line that was read: the script goes on behind it, if it ends there. -/
def Script.behind (room : Nat) {text : List Char} (first : Reading Line text) : Script :=
  match afterComment? (first.skip isGap).rest with
  | none => ⟨[first.value], some .malformed⟩
  | some ending =>
      match ending.1 with
      | [] => ⟨[first.value], none⟩
      | '\n' :: later => (script room later).cons first.value
      | _ => ⟨[first.value], some .malformed⟩

/-- Behind the blanks, the first character decides what follows. -/
lemma script_of_cons {text rest : List Char} {c : Char} (found : text.dropWhile isGap = c :: rest)
    (room : Nat) :
    script room text =
      if c = '\n' then script room rest
      else if c = '#' then
        if (rest.takeWhile (· ≠ '\n')).any (isForbidden false) then ⟨[], some .malformed⟩
        else script room (rest.dropWhile (· ≠ '\n'))
      else
        match line room (c :: rest) with
        | .error defect => ⟨[], some defect⟩
        | .ok first => .behind room first := by
  rw [script]
  split
  next other => simp [found] at other
  next c' rest' other =>
    rw [found] at other
    obtain ⟨rfl, rfl⟩ := List.cons.inj other
    dsimp only
    congr 2
    cases line room (c :: rest) with
    | error defect => rfl
    | ok first =>
        dsimp only [Script.behind]
        cases afterComment? (first.skip isGap).rest with
        | none => rfl
        | some ending =>
            obtain ⟨ending, le⟩ := ending
            dsimp only
            split
            next => rfl
            next => rfl
            next nothing lineEnd =>
              split
              · exact absurd rfl nothing
              · exact absurd rfl (lineEnd _)
              · rfl

/-- **Every text begins in one of these ways.** -/
lemma opens (text : List Char) : Opens text := by
  have le := length_dropWhile_le isGap text
  cases found : text.dropWhile isGap with
  | nil => exact .ended ⟨[], none⟩ (by simp) (script_of_nil found)
  | cons c rest =>
      rw [found, List.length_cons] at le
      have decided := script_of_cons found
      split_ifs at decided with lineEnd comment forbidden
      · exact .passed rest (by omega) decided
      · exact .ended _ (by simp) decided
      · have shorter := length_dropWhile_le (· ≠ '\n') rest
        exact .passed _ (by omega) decided
      · refine .read (c :: rest) le (fun room defect hline => ?_) fun first => ?_
        · rw [decided, hline]
        · have less := (first.skip isGap).shorter
          rw [List.length_cons] at less
          have behind (room : Nat) (hline : line room (c :: rest) = .ok first) :
              script room text = .behind room first := by
            rw [decided, hline]
          unfold Script.behind at behind
          cases ends : afterComment? (first.skip isGap).rest with
          | none =>
              simp only [ends] at behind
              exact Or.inl ⟨_, by simp, behind⟩
          | some ending =>
              obtain ⟨ending, short⟩ := ending
              simp only [ends] at behind
              split at behind
              next => exact Or.inl ⟨_, by simp, behind⟩
              next later =>
                rw [List.length_cons] at short
                exact Or.inr ⟨later, by omega, behind⟩
              next => exact Or.inl ⟨_, by simp, behind⟩

/-! ## More room for a file -/

/-- More room changes nothing about a line. -/
lemma keeps_line (le : room ≤ more) (text : List Char) : Keeps (line room text) (line more text) := by
  unfold line
  split
  · exact Keeps.refl _
  · exact Keeps.refl _
  · exact (Keeps.refl _).bind fun key => ((grows_of_le le).value key.rest).map _

/-- A script goes on where another one stops that was too deep, and otherwise it is the other one. -/
structure Extends (first second : Script) : Prop where
  /-- All lines are there, and perhaps more. -/
  lines : first.lines <+: second.lines
  /-- Without a line that is too deep, there are no more. -/
  eq_of_hasRoom : first.defect ≠ some .tooDeep → second = first

/-- A script goes on like itself. -/
lemma Extends.refl (script : Script) : Extends script script :=
  ⟨List.prefix_rfl, fun _ => rfl⟩

/-- A line in front makes no difference. -/
lemma Extends.cons {first second : Script} (h : Extends first second) (line : Line) :
    Extends (first.cons line) (second.cons line) where
  lines := List.cons_prefix_cons.mpr ⟨rfl, h.lines⟩
  eq_of_hasRoom fits := by rw [h.eq_of_hasRoom fits]

/-- With more room, a script goes on like before or it goes on for longer, by induction on the text. -/
lemma extends_script (le : room ≤ more) (text : List Char) :
    Extends (script room text) (script more text) := by
  induction hn : text.length using Nat.strongRecOn generalizing text with
  | _ n ih =>
      subst hn
      cases opens text with
      | ended ending fits same =>
          rw [same, same]
          exact Extends.refl ending
      | passed rest less same =>
          rw [same, same]
          exact ih _ less rest rfl
      | read start _ stops goesOn =>
          have kept := keeps_line le start
          cases hline : line room start with
          | error defect =>
              rw [stops room defect hline]
              refine ⟨List.nil_prefix, fun fits => ?_⟩
              have hasRoom : HasRoom (line room start) := by
                rw [hline]
                rintro ⟨⟩
                exact fits rfl
              exact stops more defect ((kept hasRoom).trans hline)
          | ok first =>
              have again : line more start = .ok first :=
                (kept (by rw [hline]; exact hasRoom_ok first)).trans hline
              rcases goesOn first with ⟨ending, _, same⟩ | ⟨later, less, same⟩
              · rw [same room hline, same more again]
                exact Extends.refl ending
              · rw [same room hline, same more again]
                exact (ih _ less later rfl).cons first.value

/-- **More room changes nothing about a file**, unless it was too deep. -/
theorem parse_of_le (le : room ≤ more) (source : String) :
    Keeps (parse room source) (parse more source) := by
  have extended := extends_script le (dropReturns source.toList)
  unfold parse
  generalize script room (dropReturns source.toList) = first at extended
  generalize script more (dropReturns source.toList) = second at extended
  intro fits
  by_cases tooDeep : first.defect = some .tooDeep
  · -- The file is not well formed, because one of its lines contradicts the ones before it.
    obtain ⟨behind, lines⟩ := extended.lines
    dsimp only at fits ⊢
    cases done : first.lines.foldlM Progress.step? Progress.start with
    | none => simp [← lines, List.foldlM_append, done]
    | some progress =>
        rw [done, tooDeep] at fits
        exact absurd rfl fits
  · rw [extended.eq_of_hasRoom tooDeep]

/-! ## Room enough -/

/-- There is room for a text that is short for it. -/
structure Suffices (room : Nat) : Prop where
  /-- For a value. -/
  value : ∀ text : List Char, 2 * text.length < room → HasRoom (value room text)
  /-- For the items of an array. -/
  items : ∀ text : List Char, 2 * text.length + 1 < room → HasRoom (items room text)
  /-- For an inline table. -/
  inline : ∀ text : List Char, 2 * text.length + 1 < room → HasRoom (inline room text)
  /-- For its entries. -/
  entries : ∀ (before : Entries) (text : List Char), 2 * text.length < room →
    HasRoom (entries room before text)

/-- There is room for the items of an array if there is for the values, by induction on the text. -/
lemma hasRoom_items
    (h : ∀ text : List Char, 2 * text.length < room → HasRoom (value room text))
    (text : List Char) (short : 2 * text.length < room) : HasRoom (items (room + 1) text) := by
  induction hn : text.length using Nat.strongRecOn generalizing text with
  | _ n ih =>
      subst hn
      rw [items, withRoom_succ]
      refine (hasRoom_wellFormed _).bind fun start => ?_
      obtain ⟨start, le⟩ := start
      dsimp only
      split
      next => exact hasRoom_ok _
      next =>
        refine (h start (by omega)).bind fun _ => (hasRoom_wellFormed _).bind fun item => ?_
        obtain ⟨item, rest, shorter⟩ := item
        dsimp only
        split
        next => exact hasRoom_ok _
        next later =>
          rw [List.length_cons] at shorter
          exact (ih _ (by omega) _ (by omega) rfl).map _
        next => exact hasRoom_malformed

/-- There is room for the entries of an inline table if there is for the values, by induction on the
text. -/
lemma hasRoom_entries
    (h : ∀ text : List Char, 2 * text.length < room → HasRoom (value room text)) (before : Entries)
    (text : List Char) (short : 2 * text.length < room + 1) :
    HasRoom (entries (room + 1) before text) := by
  induction hn : text.length using Nat.strongRecOn generalizing before text with
  | _ n ih =>
      subst hn
      rw [entries, withRoom_succ]
      refine (hasRoom_wellFormed _).bind fun key => ?_
      have shorter := key.shorter
      refine (h key.rest (by omega)).bind fun value => (hasRoom_wellFormed _).bind fun all => ?_
      have later := (value.skip isGap).shorter
      dsimp only
      split
      next => exact hasRoom_ok _
      next rest found =>
        have le := length_dropWhile_le isGap rest
        rw [found, List.length_cons] at later
        exact (ih _ (by omega) all _ (by omega) rfl).map _
      next => exact hasRoom_malformed

/-- **One round of calls**: there are no more than two of them for each character. -/
lemma Suffices.succ (h : Suffices room) : Suffices (room + 1) where
  value text short := by
    rw [Toml.value, withRoom_succ]
    split
    · exact (h.items _ (by simp at short; omega)).map _
    · exact (h.inline _ (by simp at short; omega)).map _
    · exact hasRoom_scalar _
  items text short := hasRoom_items h.value text (by omega)
  inline text short := by
    rw [Toml.inline, withRoom_succ]
    split
    · exact hasRoom_ok _
    · have le := length_dropWhile_le isGap text
      exact (h.entries _ _ (by omega)).map _
  entries before text short := hasRoom_entries h.value before text short

/-- **There is room for every text that is short for it**, by induction on the room. -/
lemma suffices_all (room : Nat) : Suffices room := by
  induction room with
  | zero => constructor <;> omega
  | succ room ih => exact ih.succ

/-- There is room for a line that is short for it. -/
lemma hasRoom_line {text : List Char} (short : 2 * text.length < room) :
    HasRoom (line room text) := by
  unfold line
  split
  · exact hasRoom_wellFormed _
  · exact hasRoom_wellFormed _
  · refine (hasRoom_wellFormed _).bind fun key => ?_
    have shorter := key.shorter
    exact ((suffices_all room).value key.rest (by omega)).map _

/-- In a text that is short for the room, there is room for all lines, by induction on the text. -/
lemma defect_script_ne {text : List Char} (short : 2 * text.length < room) :
    (script room text).defect ≠ some .tooDeep := by
  induction hn : text.length using Nat.strongRecOn generalizing text with
  | _ n ih =>
      subst hn
      cases opens text with
      | ended ending fits same =>
          rw [same]
          exact fits
      | passed rest less same =>
          rw [same]
          exact ih _ less (by omega) rfl
      | read start le stops goesOn =>
          cases hline : line room start with
          | error defect =>
              rw [stops room defect hline]
              intro tooDeep
              rw [Option.some.inj tooDeep] at hline
              exact hasRoom_line (by omega) hline
          | ok first =>
              rcases goesOn first with ⟨ending, fits, same⟩ | ⟨later, less, same⟩
              · rw [same room hline]
                exact fits
              · rw [same room hline]
                exact ih _ less (by omega) rfl

/-- A text does not get longer where carriage returns are dropped. -/
lemma length_dropReturns_le (text : List Char) : (dropReturns text).length ≤ text.length := by
  fun_induction dropReturns text with
  | case1 rest ih => simp; omega
  | case2 c rest _ ih => simp; omega
  | case3 => exact Nat.le_refl 0

/-- **There is room for a file that is short for it.** -/
theorem parse_hasRoom {source : String} (short : 2 * source.length < room) :
    HasRoom (parse room source) := by
  have le := length_dropReturns_le source.toList
  rw [String.length_toList] at le
  have fits : (script room (dropReturns source.toList)).defect ≠ some .tooDeep :=
    defect_script_ne (by omega)
  unfold parse
  dsimp only
  split
  next => exact hasRoom_malformed
  next defect _ found =>
    intro tooDeep
    rw [found] at fits
    cases tooDeep
    exact fits rfl
  next => exact hasRoom_ok _

/-! ## Arrays inside each other -/

/-- A text that begins with neither a blank nor a comment has nothing to be passed over. -/
lemma afterComments?_of_head {c : Char} (notGap : isWideGap c = false) (notComment : c ≠ '#')
    (text : List Char) : afterComments? (c :: text) = some (.whole (c :: text)) := by
  have bare : (c :: text).dropWhile isWideGap = c :: text := by
    rw [List.dropWhile_cons_of_neg (by simp [notGap])]
  rw [afterComments?]
  split
  next body found =>
    rw [bare] at found
    exact absurd (List.cons.inj found).1 notComment
  next => simp only [bare, Rest.whole]

/-- No blank or comment stands in front of an opening bracket. -/
lemma afterComments?_opening (text : List Char) :
    afterComments? ('[' :: text) = some (.whole ('[' :: text)) :=
  afterComments?_of_head (by decide) (by decide) text

/-- No blank or comment stands in front of a closing bracket. -/
lemma afterComments?_closing (text : List Char) :
    afterComments? (']' :: text) = some (.whole (']' :: text)) :=
  afterComments?_of_head (by decide) (by decide) text

/-- Items are too deep if the first one is, which is an array. -/
lemma items_of_opening {text : List Char} (h : value room ('[' :: text) = .error .tooDeep) :
    items (room + 1) ('[' :: text) = .error .tooDeep := by
  rw [items, withRoom_succ, afterComments?_opening]
  show (value room ('[' :: text)).bind _ = _
  rw [h]
  rfl

/-- An array that begins with so many arrays inside each other fills the room, whatever it ends with,
by induction on the arrays. -/
lemma value_openings {n : Nat} (deep : room < 2 * n) (text : List Char) :
    value room (List.replicate n '[' ++ text) = .error .tooDeep := by
  induction n generalizing room with
  | zero => omega
  | succ n ih =>
      rw [List.replicate_succ, List.cons_append]
      rcases room with _ | _ | room
      · rw [value, withRoom_zero]
      · rw [value, withRoom_succ]
        show (items 0 _).map _ = _
        rw [items, withRoom_zero]
        rfl
      · obtain ⟨n, rfl⟩ := Nat.exists_eq_add_one.mpr (show 0 < n by omega)
        have inside : value room (List.replicate (n + 1) '[' ++ text) = .error .tooDeep :=
          ih (by omega)
        rw [List.replicate_succ, List.cons_append] at inside ⊢
        rw [value, withRoom_succ]
        show (items (room + 1) _).map _ = _
        rw [items_of_opening inside]
        rfl

/-- An item that is an array is the only one if a closing bracket stands behind it. -/
lemma items_of_single {text behind : List Char} {item : Reading Value ('[' :: text)}
    (h : value room ('[' :: text) = .ok item) (closed : item.rest = ']' :: behind) :
    ∃ all, items (room + 1) ('[' :: text) = .ok all ∧ all.rest = behind := by
  obtain ⟨item, rest, shorter⟩ := item
  obtain rfl : rest = ']' :: behind := closed
  have spaced : Reading.spaced? ⟨item, ']' :: behind, shorter⟩ =
      some ⟨item, ']' :: behind, shorter⟩ := by
    simp only [Reading.spaced?, afterComments?_closing]
    rfl
  rw [items, withRoom_succ, afterComments?_opening]
  show ∃ all, (value room ('[' :: text)).bind _ = _ ∧ _
  rw [h]
  show ∃ all, (wellFormed (Reading.spaced? ⟨item, ']' :: behind, shorter⟩)).bind _ = _ ∧ _
  rw [spaced]
  exact ⟨_, rfl, rfl⟩

/-- An empty array is read. -/
lemma items_of_closing (text : List Char) :
    ∃ all, items (room + 1) (']' :: text) = .ok all ∧ all.rest = text := by
  rw [items, withRoom_succ, afterComments?_closing]
  exact ⟨_, rfl, rfl⟩

/-- An array is read if its items are. -/
lemma value_of_items {text behind : List Char}
    (h : ∃ all, items room text = .ok all ∧ all.rest = behind) :
    ∃ array, value (room + 1) ('[' :: text) = .ok array ∧ array.rest = behind := by
  obtain ⟨all, read, rest⟩ := h
  rw [value, withRoom_succ]
  show ∃ array, (items room text).map _ = _ ∧ _
  rw [read]
  exact ⟨_, rfl, rest⟩

/-- Arrays inside each other are read where there are two places for each one, by induction on the
arrays. -/
lemma exists_value_nested {n : Nat} (fits : 2 * (n + 1) ≤ room) (text : List Char) :
    ∃ array, value room (List.replicate (n + 1) '[' ++ (List.replicate (n + 1) ']' ++ text)) =
      .ok array ∧ array.rest = text := by
  obtain ⟨room, rfl⟩ := Nat.exists_eq_add_of_le' (show 2 ≤ room by omega)
  induction n generalizing room text with
  | zero => exact value_of_items (items_of_closing text)
  | succ n ih =>
      obtain ⟨room, rfl⟩ := Nat.exists_eq_add_of_le' (show 2 ≤ room by omega)
      obtain ⟨item, inside, rest⟩ := ih (']' :: text) room (by omega)
      have behind : List.replicate (n + 2) ']' ++ text =
          List.replicate (n + 1) ']' ++ (']' :: text) := by
        rw [List.replicate_succ', List.append_assoc]
        rfl
      rw [List.replicate_succ, List.cons_append, behind]
      exact value_of_items (items_of_single inside rest)

/-- **So many arrays inside each other are too deep exactly if there are less than two places for each
one.** -/
theorem value_nested_eq_tooDeep_iff {n : Nat} (some : 0 < n) (text : List Char) :
    value room (List.replicate n '[' ++ (List.replicate n ']' ++ text)) = .error .tooDeep ↔
      room < 2 * n := by
  constructor
  · intro tooDeep
    by_contra fits
    obtain ⟨n, rfl⟩ := Nat.exists_eq_add_one.mpr some
    obtain ⟨array, read, -⟩ := exists_value_nested (Nat.not_lt.mp fits) text
    rw [read] at tooDeep
    cases tooDeep
  · intro deep
    exact value_openings deep _

/-! ## Files that are too deep -/

/-- In front of an array, a key and an equals sign are read. -/
lemma keyEquals?_of_opening (text : List Char) :
    ∃ key, keyEquals? ('a' :: '=' :: '[' :: text) = some key ∧ key.rest = '[' :: text := by
  have name : name? ('a' :: '=' :: '[' :: text) = some ⟨"a", '=' :: '[' :: text, by simp⟩ := rfl
  rw [keyEquals?, key?, name]
  exact ⟨_, rfl, rfl⟩

/-- Without a carriage return, nothing is dropped in front of the rest. -/
lemma dropReturns_openings (n : Nat) (text : List Char) :
    dropReturns (List.replicate n '[' ++ text) = List.replicate n '[' ++ dropReturns text := by
  induction n with
  | zero => rfl
  | succ n ih =>
      rw [List.replicate_succ, List.cons_append, dropReturns, ih]
      · rfl
      · exact nofun

/-- **Whatever the room is, there is a file that is too deep for it**: a key with half as many
brackets as there are places, and one more, whatever stands behind them. -/
theorem parse_openings {n : Nat} (deep : room < 2 * n) (ending : String) :
    parse room ("a=" ++ String.ofList (List.replicate n '[') ++ ending) = .error .tooDeep := by
  obtain ⟨n, rfl⟩ := Nat.exists_eq_add_one.mpr (show 0 < n by omega)
  let behind := List.replicate n '[' ++ dropReturns ending.toList
  have text : dropReturns
      ("a=" ++ String.ofList (List.replicate (n + 1) '[') ++ ending).toList =
        'a' :: '=' :: '[' :: behind := by
    simp [dropReturns, List.replicate_succ, dropReturns_openings, behind]
  have read : line room ('a' :: '=' :: '[' :: behind) = .error .tooDeep := by
    obtain ⟨key, hkey, hrest⟩ := keyEquals?_of_opening behind
    have inside : value room key.rest = .error .tooDeep := by
      rw [hrest]
      exact value_openings deep (dropReturns ending.toList)
    show (wellFormed (keyEquals? ('a' :: '=' :: '[' :: behind))).bind _ = _
    rw [hkey, wellFormed]
    show ((value room key.rest).map _) = _
    rw [inside]
    rfl
  have stopped : script room ('a' :: '=' :: '[' :: behind) = ⟨[], some .tooDeep⟩ := by
    have start : ('a' :: '=' :: '[' :: behind).dropWhile isGap = 'a' :: '=' :: '[' :: behind := rfl
    rw [script_of_cons start, if_neg (by decide), if_neg (by decide), read]
  unfold parse
  rw [text, stopped]
  rfl

end Calculator.Toml
