import Mathlib.Tactic.Common
import Calculator.Decimal.Layout
import Calculator.Diagnostic

/-!
# Diagnostics as they are read

Two things that a reader of a diagnostic relies on, whatever the source.

* **The message shows where the input ended.** It ends in the words for that if the grammar found
  the end of the input, and with no other cause (`endOfInput_isSuffix_message_iff`): a quoted text
  ends in its quotation mark, and a number in none of the letters that those words end in
  (`Binary64.mem_plainForm`).
* **The pointer stands under its position** (`Place.marks_pointer`): the source keeps its length and
  all characters that can be seen, and the one break in the text is the one between its two lines
  (`Marks`).
-/

namespace Calculator

/-! ## The characters of numbers -/

namespace Decimal

/-- Digits in positional form are digits, zeros and the point. -/
lemma mem_positional {digits : List Char} {point : Int} {c : Char}
    (h : c ∈ positional digits point) : c ∈ digits ∨ c = '0' ∨ c = '.' := by
  unfold positional at h
  split_ifs at h
  · simp only [List.mem_cons, List.mem_append, List.mem_replicate] at h
    tauto
  · simp only [List.mem_cons, List.mem_append, List.mem_replicate, List.not_mem_nil] at h
    tauto
  · simp only [List.mem_cons, List.mem_append] at h
    rcases h with htake | rfl | hdrop
    · exact Or.inl (List.mem_of_mem_take htake)
    · exact Or.inr (Or.inr rfl)
    · exact Or.inl (List.mem_of_mem_drop hdrop)

/-- A power of ten is its letter, a sign and digits. -/
lemma mem_powerMark {power : Int} {c : Char} (h : c ∈ powerMark power) :
    c.isDigit = true ∨ c ∈ ['e', '+', '-'] := by
  simp only [powerMark, List.mem_cons] at h
  rcases h with rfl | rfl | h
  · simp
  · split_ifs <;> simp
  · left
    split_ifs at h
    · rcases List.mem_cons.mp h with rfl | h
      · rfl
      · exact isDigit_of_mem_digits h
    · exact isDigit_of_mem_digits h

/-- Digits in exponential form are digits, the point and a power of ten. -/
lemma mem_exponential_cases {digits : List Char} {power : Int} {c : Char}
    (h : c ∈ exponential digits power) : c ∈ digits ∨ c = '.' ∨ c ∈ powerMark power := by
  unfold exponential at h
  split at h
  · exact Or.inr (Or.inr h)
  · rcases List.mem_cons.mp h with rfl | h
    · exact Or.inl (List.mem_singleton_self _)
    · exact Or.inr (Or.inr h)
  · simp only [List.cons_append, List.mem_cons, List.mem_append] at h ⊢
    tauto

end Decimal

/-- **The characters of numbers in plain form**: digits and what stands between them, or the letters
of the words for the rest. -/
lemma Binary64.mem_plainForm {x : Binary64} {c : Char} (h : c ∈ x.plainForm) :
    c.isDigit = true ∨ c ∈ ['.', 'e', '+', '-', 'i', 'n', 'f', 'a'] := by
  have sign : ∀ {negative : Bool}, c ∈ signMark negative → c = '-' := by
    intro negative hmark
    cases negative with
    | false => cases hmark
    | true => exact List.mem_singleton.mp hmark
  cases x with
  | nan =>
      right
      simp only [plainForm, List.mem_cons, List.not_mem_nil, or_false] at h ⊢
      tauto
  | infinity negative =>
      right
      rcases List.mem_append.mp h with hmark | h
      · simp [sign hmark]
      · simp only [List.mem_cons, List.not_mem_nil, or_false] at h ⊢
        tauto
  | finite negative m =>
      rcases List.mem_append.mp h with hmark | h
      · simp [sign hmark]
      · unfold Decimal.plainForm at h
        simp only at h
        split_ifs at h
        · rcases Decimal.mem_positional h with hdigit | rfl | rfl
          · exact Or.inl (Decimal.isDigit_of_mem_digits hdigit)
          · exact Or.inl rfl
          · simp
        · rcases Decimal.mem_exponential_cases h with hdigit | rfl | hpower
          · exact Or.inl (Decimal.isDigit_of_mem_digits hdigit)
          · simp
          · rcases Decimal.mem_powerMark hpower with hdigit | hmark
            · exact Or.inl hdigit
            · simp only [List.mem_cons, List.not_mem_nil, or_false] at hmark ⊢
              tauto

/-! ## How messages end -/

/-- A text does not end in these words if its last character is another than theirs. -/
lemma not_endOfInput_isSuffix {front tail : List Char} {last : Char} (h : tail.getLast? = some last)
    (other : last ≠ 't') : ¬ "end of input".toList <:+ front ++ tail := by
  rintro ⟨before, hbefore⟩
  have ends := congrArg List.getLast? hbefore
  have words : "end of input".toList.getLast? = some 't' := rfl
  rw [List.getLast?_append, List.getLast?_append, h, words] at ends
  exact other (Option.some.inj ends).symm

/-- A quoted text ends in a quotation mark. -/
lemma exists_getLast?_quote (text : String) :
    ∃ last, (Text.quote text).toList.getLast? = some last ∧ last ≠ 't' := by
  refine ⟨Text.mark text.toList, ?_, ?_⟩
  · rw [Text.toList_quote, Text.quoteChars, List.getLast?_append]
    rfl
  · unfold Text.mark
    split_ifs <;> decide

/-- What a symbol is shown as, behind a colon, does not end like the words for the end of the input.
-/
lemma exists_getLast?_shown (symbol : Symbol) :
    ∃ last, (": " ++ symbol.shown).toList.getLast? = some last ∧ last ≠ 't' := by
  cases symbol with
  | number value =>
      have nonempty : (": " ++ value.text).toList ≠ [] := by simp
      obtain ⟨last, hlast⟩ := Option.isSome_iff_exists.mp (List.getLast?_isSome.mpr nonempty)
      refine ⟨last, hlast, ?_⟩
      rintro rfl
      have hmem := List.mem_of_getLast? hlast
      rw [String.toList_append, List.mem_append] at hmem
      rcases hmem with hcolon | hnumber
      · exact absurd hcolon (by decide)
      · rw [Binary64.text, String.toList_ofList] at hnumber
        exact absurd (Binary64.mem_plainForm hnumber) (by decide)
  | _ =>
      obtain ⟨last, hlast, other⟩ := exists_getLast?_quote _
      refine ⟨last, ?_, other⟩
      show (": " ++ Text.quote _).toList.getLast? = some last
      rw [String.toList_append, List.getLast?_append, hlast]
      rfl

/-- A complaint about a symbol other than the end of the input shows the symbol. -/
lemma Cause.message_misplaced (complaint : Complaint) {found : Symbol} (h : found ≠ .endOfInput) :
    (Cause.misplaced complaint found).message = complaint.message ++ ": " ++ found.shown := by
  cases found with
  | endOfInput => exact absurd rfl h
  | _ => rfl

/-- **A message ends in the words for the end of the input** exactly if the grammar has found it. -/
theorem endOfInput_isSuffix_message_iff {cause : Cause} :
    "end of input".toList <:+ cause.message.toList ↔
      ∃ complaint, cause = .misplaced complaint .endOfInput := by
  constructor
  · intro h
    have quoted : ∀ front text, ¬ "end of input".toList <:+ (front ++ Text.quote text).toList := by
      intro front text
      obtain ⟨last, hlast, other⟩ := exists_getLast?_quote text
      rw [String.toList_append]
      exact not_endOfInput_isSuffix hlast other
    cases cause with
    | unknownCharacter c => exact absurd h (quoted _ _)
    | malformedNumber text => exact absurd h (quoted _ _)
    | misplaced complaint found =>
        by_cases hfound : found = .endOfInput
        · exact ⟨complaint, by rw [hfound]⟩
        · obtain ⟨last, hlast, other⟩ := exists_getLast?_shown found
          rw [Cause.message_misplaced complaint hfound, String.append_assoc,
            String.toList_append] at h
          exact absurd h (not_endOfInput_isSuffix hlast other)
  · rintro ⟨complaint, rfl⟩
    refine ⟨(complaint.message ++ ": ").toList, ?_⟩
    rw [← String.toList_append, String.append_assoc]
    rfl

/-! ## Pointers -/

/-- A text marks a position of a source: the source on one line, with plain spaces for all that is
blank, and below it a mark behind as many spaces as characters stand before the position. -/
structure Marks (source : String) (pos : Nat) (text : List Char) : Prop where
  /-- The two lines. -/
  lines : ∃ shown : List Char, text = shown ++ '\n' :: (List.replicate pos ' ' ++ ['^']) ∧
    shown.length = source.length ∧
      ∀ (i : Nat) (c : Char), source.toList[i]? = some c →
        shown[i]? = some (if Text.isBlank c then ' ' else c)
  /-- There is no other blank but plain spaces. -/
  oneBreak : text.filter (fun c => Text.isBlank c && c != ' ') = ['\n']

/-- **The pointer marks its position.** -/
theorem Place.marks_pointer (source : String) (pos : Nat) :
    Marks source pos (Place.pointer ⟨source, pos⟩).toList := by
  have lines : (Place.pointer ⟨source, pos⟩).toList =
      source.toList.map flatten ++ '\n' :: (List.replicate pos ' ' ++ ['^']) := by
    simp [pointer, line, caret]
  constructor
  · refine ⟨source.toList.map flatten, lines, ?_, ?_⟩
    · rw [List.length_map, String.length_toList]
    · intro i c hc
      rw [List.getElem?_map, hc]
      rfl
  · have first : (source.toList.map flatten).filter (fun c => Text.isBlank c && c != ' ') = [] := by
      rw [List.filter_eq_nil_iff]
      intro c hc
      obtain ⟨d, -, rfl⟩ := List.mem_map.mp hc
      unfold flatten
      split_ifs with hblank <;> simp [hblank]
    have second : (List.replicate pos ' ').filter (fun c => Text.isBlank c && c != ' ') = [] := by
      rw [List.filter_eq_nil_iff]
      intro c hc
      simp [List.eq_of_mem_replicate hc]
    rw [lines, List.filter_append, first, List.filter_cons_of_pos (by decide), List.filter_append,
      second]
    rfl

end Calculator
