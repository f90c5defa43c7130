import Mathlib.Data.Bool.AllAny
import Calculator.Proofs.CommandLine.Evaluation
import Calculator.Proofs.Console.Rows
import Calculator.Proofs.Decimal.Display
import Calculator.Proofs.Decimal.Length
import Calculator.Proofs.Text.Plain

/-!
# What an evaluation shows, word for word

A value and a diagnostic are shown by a console of eighty columns, which takes long texts apart. How
far a run shows them as they are is settled by their length.

* A value is made of plain characters without spaces (`isPlain_of_mem_display`), so it is broken into
  rows of eighty.
* A diagnostic is about a character, about a run of digits and points, or about a symbol
  (`summarized_of_calculate`). Only such a run can be too long for one row, and then all of it goes to
  the rows below (`firstLine_of_summarized`).

`eval_shows` puts this together for runs of the program.
-/

namespace Calculator

/-! ## Values -/

/-- Leaving out a final point and zero adds no character. -/
lemma mem_of_mem_dropPointZero {text : List Char} {c : Char}
    (h : c ∈ Binary64.dropPointZero text) : c ∈ text := by
  unfold Binary64.dropPointZero at h
  split_ifs at h
  · exact List.mem_of_mem_take h
  · exact h

/-- A magnitude with a fixed number of places is made of digits and a point. -/
lemma isNumeralChar_of_mem_fixedForm {m : Magnitude} {places : Nat} {c : Char}
    (h : c ∈ m.fixedForm places) : isNumeralChar c = true := by
  have padded :
      ∀ d ∈ List.replicate (places + 1 - (Decimal.digits (m.roundedAt places)).length) '0' ++
        Decimal.digits (m.roundedAt places), isNumeralChar d = true := by
    intro d hd
    rcases List.mem_append.mp hd with zero | digit
    · rw [List.eq_of_mem_replicate zero]
      rfl
    · exact isNumeralChar_of_isDigit (Decimal.isDigit_of_mem_digits digit)
  unfold Magnitude.fixedForm at h
  simp only at h
  split_ifs at h
  · exact padded c h
  · rcases List.mem_append.mp h with front | back
    · exact padded c (List.mem_of_mem_take front)
    · rcases List.mem_cons.mp back with rfl | back
      · rfl
      · exact padded c (List.mem_of_mem_drop back)

/-- **What is displayed of a number is made of plain characters without spaces.** -/
lemma isPlain_of_mem_display {x : Binary64} {places : Option Nat} {c : Char}
    (h : c ∈ (x.display places).toList) : IsPlain c ∧ c ≠ ' ' := by
  cases places with
  | none =>
      rw [Binary64.display, String.toList_ofList] at h
      exact isPlain_of_mem_plainForm (mem_of_mem_dropPointZero h)
  | some places =>
      rw [Binary64.display, String.toList_ofList] at h
      cases x with
      | nan => exact isPlain_of_mem_plainForm (x := .nan) h
      | infinity negative => exact isPlain_of_mem_plainForm (x := .infinity negative) h
      | finite negative m =>
          rcases List.mem_append.mp h with mark | digit
          · cases negative with
            | false => cases mark
            | true =>
                rw [List.mem_singleton.mp mark]
                decide
          · exact (isPlain_of_isNumeralChar (isNumeralChar_of_mem_fixedForm digit)).1

/-- A number in plain form has three characters at least. -/
lemma three_le_length_plainForm (x : Binary64) : 3 ≤ x.plainForm.length := by
  cases x with
  | nan => exact le_rfl
  | infinity negative => cases negative <;> decide
  | finite negative m =>
      have form : 3 ≤ m.shortest.plainForm.length := by
        have some := Decimal.digits_ne_nil m.shortest.coefficient
        unfold Decimal.plainForm
        simp only
        split_ifs
        · exact Decimal.length_positional _ some
        · unfold Decimal.exponential
          split
          · exact absurd ‹_› some
          · simp only [Decimal.powerMark, List.length_cons]
            omega
          · simp only [Decimal.powerMark, List.length_append, List.length_cons]
            omega
      rw [Binary64.plainForm, List.length_append]
      omega

/-- Something is displayed of every number. -/
lemma display_ne_empty (x : Binary64) (places : Option Nat) : (x.display places).toList ≠ [] := by
  rw [Binary64.display.eq_def]
  cases places with
  | none =>
      have long := three_le_length_plainForm x
      simp only [String.toList_ofList, Binary64.shortForm, Binary64.dropPointZero]
      split_ifs
      · intro nothing
        have short := congrArg List.length nothing
        rw [List.length_take, List.length_nil] at short
        omega
      · intro nothing
        rw [nothing] at long
        cases long
  | some places =>
      simp only [String.toList_ofList]
      cases x with
      | nan => exact List.cons_ne_nil _ _
      | infinity negative => cases negative <;> exact List.cons_ne_nil _ _
      | finite negative m =>
          have some := Decimal.digits_ne_nil (m.roundedAt places)
          have form : m.fixedForm places ≠ [] := by
            unfold Magnitude.fixedForm
            simp only
            split_ifs <;> simp [some]
          exact List.append_ne_nil_of_right_ne_nil _ form

/-! ## Shown texts -/

/-- No printable character is dropped by the console. -/
lemma isDropped_eq_false {c : Char} (h : Text.isPrintable c = true) :
    Console.isDropped c = false := by
  have dropped : ∀ d ∈ ['\x07', '\x08', '\x0b', '\x0c', '\x0d'], Text.isPrintable d = false :=
    List.all_iff_forall_prop.mp (by decide)
  rw [Bool.eq_false_iff]
  intro moved
  have mem : c ∈ ['\x07', '\x08', '\x0b', '\x0c', '\x0d'] := by
    simpa [Console.isDropped, or_assoc] using moved
  rw [dropped c mem] at h
  cases h

/-- A plain character that is no space is visible. -/
lemma IsPlain.isVisible {c : Char} (h : IsPlain c) (notSpace : c ≠ ' ') : Console.IsVisible c := by
  refine ⟨lt_of_le_of_ne h.1 fun same => notSpace ?_, h.2.1⟩
  exact Char.toNat_inj.mp same.symm

/-- The markup of the console leaves plain text alone. -/
lemma literal_of_isPlain {text : List Char} (h : ∀ c ∈ text, IsPlain c) :
    Console.literal text = text := by
  apply Console.literal_eq_self
  · exact Or.inl fun m => (h _ m).2.2.1 rfl
  · exact fun last => (h _ (List.mem_of_getLast? last)).2.2.2 rfl
  · exact fun c hc => isDropped_eq_false (h c hc).isPrintable

/-- **A plain text without spaces is broken into rows.** -/
lemma paragraph_of_isPlain {text : String} (some : text.toList ≠ [])
    (h : ∀ c ∈ text.toList, IsPlain c ∧ c ≠ ' ') :
    ∃ rows, Console.BreaksInto text.toList rows ∧
      Console.paragraph text = String.ofList (List.intercalate ['\n'] rows ++ ['\n']) := by
  obtain ⟨rows, broken, shown⟩ :=
    Console.layout_of_isVisible some fun c hc => (h c hc).1.isVisible (h c hc).2
  refine ⟨rows, broken, ?_⟩
  rw [Console.paragraph, literal_of_isPlain fun c hc => (h c hc).1, shown]

/-- The first line of a text. -/
def firstLine (text : String) : String :=
  String.ofList (text.toList.takeWhile (· ≠ '\n'))

/-- The first line of a text is what stands before its first line end. -/
lemma firstLine_append {line : String} (h : '\n' ∉ line.toList) (rest : String) :
    firstLine (line ++ "\n" ++ rest) = line := by
  have kept : ∀ c ∈ line.toList, (decide (c ≠ '\n')) = true := by
    intro c hc
    rw [decide_eq_true_eq]
    rintro rfl
    exact h hc
  rw [firstLine, String.toList_append, String.toList_append, List.append_assoc,
    List.takeWhile_append_of_pos kept]
  have ending : ("\n".toList ++ rest.toList).takeWhile (fun c => decide (c ≠ '\n')) = [] := rfl
  rw [ending, List.append_nil, String.ofList_toList]

/-- A text that is shown as it is, on a row of its own. -/
structure IsVerbatim (text : String) : Prop where
  /-- It is no longer than a row. -/
  fits : text.length ≤ Console.columns
  /-- It has no line end in it. -/
  oneLine : '\n' ∉ text.toList
  /-- A line end is all that is added. -/
  shown : Console.paragraph text = text ++ "\n"

/-- A text that is shown as it is can be read off the first line. -/
lemma IsVerbatim.firstLine_paragraph {text : String} (h : IsVerbatim text) (rest : String) :
    firstLine (Console.paragraph text ++ rest) = text := by
  rw [h.shown, firstLine_append h.oneLine]

/-- **A printable text that has room on a row is shown as it is.** -/
lemma isVerbatim_of_room {text : String} (printable : ∀ c ∈ text.toList, Text.isPrintable c = true)
    (plain : '[' ∉ text.toList ∨ Text.backslash ∉ text.toList)
    (ending : text.toList.getLast? ≠ some Text.backslash)
    (fits : Console.room text.toList ≤ Console.columns) : IsVerbatim text := by
  have without {c : Char} (h : Text.isPrintable c = false) : c ∉ text.toList := by
    intro m
    rw [printable c m] at h
    cases h
  refine ⟨?_, without (by decide), ?_⟩
  · rw [← String.length_toList]
    exact (Console.length_le_room text.toList).trans fits
  · rw [Console.paragraph,
      Console.literal_eq_self plain ending fun c hc => isDropped_eq_false (printable c hc),
      Console.layout_of_room (without (by decide)) (without (by decide)) fits, String.ofList_append,
      String.ofList_toList]

/-- A plain text that is not longer than a row is shown as it is. -/
lemma isVerbatim_of_length_le {text : String} (h : IsPlainText text)
    (fits : text.length ≤ Console.columns) : IsVerbatim text := by
  apply isVerbatim_of_room
  · exact fun c hc => (h c hc).isPrintable
  · exact Or.inl fun m => (h _ m).2.2.1 rfl
  · exact fun last => (h _ (List.mem_of_getLast? last)).2.2.2 rfl
  · rwa [Console.room_of_ascii fun c hc => (h c hc).2.1, String.length_toList]

/-! ## Diagnostics -/

/-- The words in front of a run of digits and points that is no number. -/
def malformedWords : String := "LexError: invalid number literal: "

/-- What a summary is about. -/
inductive Summarized : (summary : String) → Prop
  /-- A character that no symbol starts with. -/
  | character (c : Char) :
      Summarized ("LexError: unknown token: " ++ Text.quote (String.singleton c))
  /-- A run of digits and points that is no number. -/
  | run {run : List Char} (numeral : ∀ c ∈ run, isNumeralChar c = true) :
      Summarized (malformedWords ++ Text.quote (String.ofList run))
  /-- A symbol that the grammar objects to. -/
  | symbol (complaint : Complaint) (found : Symbol) :
      Summarized ("ParseError: " ++ (Cause.misplaced complaint found).message)

/-- **A calculation fails for one of three reasons**, and its diagnostic says which. -/
lemma summarized_of_calculate {source : String} {allowTrailing : Bool} {report : Diagnostic}
    (h : (calculate source allowTrailing).outcome = .error report) : Summarized report.summary := by
  have handed := handedOut_parseSource source allowTrailing
  rw [outcome_calculate] at h
  generalize (parseSource source allowTrailing).outcome = outcome at h handed
  generalize (parseSource source allowTrailing).lexer.recorded.toList = recorded at handed
  cases handed with
  | parsed leads admitted => cases h
  | misplaced complaint tokens =>
      cases h
      exact .symbol complaint _
  | @exhausted recorded fault tokens =>
      cases h
      have failed := congrArg Prod.snd tokens
      obtain ⟨lexeme, -, refused⟩ := refused_of_tokenize failed
      rw [tokenize_eq_tokensAt] at failed
      have lexical : fault.cause.kind = .lexical := kind_of_tokensAt failed
      have summary : (fault.diagnostic source).summary = "LexError: " ++ fault.cause.message := by
        rw [Diagnostic.summary, Fault.diagnostic, lexical]
        rfl
      rw [summary]
      generalize fault.cause.message = words at refused
      cases refused with
      | unknown notBlank foreign =>
          rw [← String.append_assoc]
          exact .character _
      | malformed nonempty numeral wrong =>
          rw [← String.append_assoc]
          exact .run numeral

/-- **A run of digits and points that is no number** fails as a whole, and the diagnostic quotes it. -/
lemma calculate_of_malformed {run : List Char} (nonempty : run ≠ [])
    (numeral : ∀ c ∈ run, isNumeralChar c = true)
    (wrong : 2 ≤ run.count '.' ∨ ∀ c ∈ run, c.isDigit = false) (allowTrailing : Bool) :
    ∃ report, (calculate (String.ofList run) allowTrailing).outcome = .error report ∧
      report.summary = malformedWords ++ Text.quote (String.ofList run) := by
  have lexeme : IsLexeme run := .run nonempty numeral
  obtain ⟨cause, hcause⟩ := (Refused.malformed nonempty numeral wrong).exists_cause
  have words : cause.message = "invalid number literal: " ++ Text.quote (String.ofList run) := by
    have refused := refused_of_ofLexeme lexeme hcause
    generalize cause.message = message at refused
    cases refused with
    | malformed => rfl
    | @unknown c _ foreign =>
        exact absurd (mem_alphabet_iff.mpr (Or.inl (numeral c (List.mem_singleton_self c)))) foreign
  have tokens : tokenize (String.ofList run) = ([], some ⟨cause, 0⟩) := by
    have scanned := scan_of_isLexeme isGap_nil lexeme (Apart.nil_right run)
    rw [List.nil_append, List.append_nil] at scanned
    rw [tokenize_eq_tokensAt, String.toList_ofList, tokensAt_of_fault scanned hcause]
    rfl
  refine ⟨_, outcome_calculate_of_fault tokens allowTrailing, ?_⟩
  rw [Diagnostic.summary, Fault.diagnostic, kind_of_ofLexeme hcause, words, ← String.append_assoc]
  rfl

/-- A symbol is named in plain characters, and not in many. -/
lemma exists_name (complaint : Complaint) (found : Symbol) :
    ∃ name, (Cause.misplaced complaint found).message = complaint.message ++ ": " ++ name ∧
      IsPlainText name ∧ name.length ≤ 26 := by
  cases found with
  | endOfInput => exact ⟨"end of input", by rw [String.append_assoc]; rfl, by decide, by decide⟩
  | number value =>
      refine ⟨value.text, rfl, isPlainText_text value, ?_⟩
      rw [Binary64.text, String.length_ofList]
      exact value.length_plainForm_le
  | operator op => exact ⟨_, rfl, by cases op <;> decide, by cases op <;> decide⟩
  | leftParen => exact ⟨_, rfl, by decide, by decide⟩
  | rightParen => exact ⟨_, rfl, by decide, by decide⟩

/-- The objection to a symbol is worded in plain characters, and not in many. -/
lemma message_of_symbol (complaint : Complaint) (found : Symbol) :
    IsPlainText (Cause.misplaced complaint found).message ∧
      (Cause.misplaced complaint found).message.length ≤ 63 := by
  have objection : IsPlainText complaint.message ∧ complaint.message.length ≤ 35 := by
    cases complaint <;> decide
  have colon : IsPlainText ": " := by decide
  obtain ⟨name, message, plain, short⟩ := exists_name complaint found
  rw [message, String.length_append, String.length_append]
  exact ⟨(objection.1.append colon).append plain,
    Nat.add_le_add (Nat.add_le_add objection.2 (le_refl 2)) short⟩

/-- A complaint is shown as it is. -/
lemma isVerbatim_of_symbol (complaint : Complaint) (found : Symbol) :
    IsVerbatim ("ParseError: " ++ (Cause.misplaced complaint found).message) := by
  have words : IsPlainText "ParseError: " := by decide
  obtain ⟨plain, short⟩ := message_of_symbol complaint found
  apply isVerbatim_of_length_le (words.append plain)
  rw [String.length_append]
  exact (Nat.add_le_add (le_refl 12) short).trans (by decide)

/-- A character that no symbol starts with is shown as it is. -/
lemma isVerbatim_of_character (c : Char) :
    IsVerbatim ("LexError: unknown token: " ++ Text.quote (String.singleton c)) := by
  have words : IsPlainText "LexError: unknown token: " := by decide
  have characters : ("LexError: unknown token: " ++ Text.quote (String.singleton c)).toList =
      "LexError: unknown token: ".toList ++ Text.quoteChars [c] := by
    rw [String.toList_append, Text.toList_quote, String.toList_singleton]
  apply isVerbatim_of_room
  · intro d hd
    rw [characters, List.mem_append] at hd
    rcases hd with hd | hd
    · exact (words d hd).isPrintable
    · exact Text.isPrintable_of_mem_quoteChars hd
  · rw [characters, List.mem_append, List.mem_append]
    rcases Text.bracket_or_backslash c with bracket | backslash
    · exact Or.inl fun m => m.elim (fun m => (words _ m).2.2.1 rfl) bracket
    · exact Or.inr fun m => m.elim (fun m => (words _ m).2.2.2 rfl) backslash
  · rw [characters, List.getLast?_append, Text.getLast?_quoteChars]
    rcases Text.mark_eq [c] with mark | mark <;> rw [mark] <;> decide
  · have size := Text.length_quoteChars_singleton c
    have wide := Console.room_le (Text.quoteChars [c])
    have front : Console.room "LexError: unknown token: ".toList = 25 := by decide
    rw [characters, Console.room_append, front, Console.columns]
    omega

/-- A run of digits and points is quoted as it is. -/
lemma toList_quote_run {run : List Char} (numeral : ∀ c ∈ run, isNumeralChar c = true) :
    (Text.quote (String.ofList run)).toList = Text.apostrophe :: run ++ [Text.apostrophe] := by
  rw [Text.toList_quote, String.toList_ofList]
  apply Text.quoteChars_of_unescaped
  intro c hc
  obtain ⟨⟨plain, -⟩, other⟩ := isPlain_of_isNumeralChar (numeral c hc)
  exact ⟨plain.isPrintable, other, plain.2.2.2⟩

/-- The quoted run is visible, and plain. -/
lemma isPlain_of_mem_quote_run {run : List Char} (numeral : ∀ c ∈ run, isNumeralChar c = true)
    {c : Char} (h : c ∈ (Text.quote (String.ofList run)).toList) : IsPlain c ∧ c ≠ ' ' := by
  have mark : IsPlain Text.apostrophe ∧ Text.apostrophe ≠ ' ' := by decide
  rw [toList_quote_run numeral] at h
  simp only [List.cons_append, List.mem_cons, List.mem_append, List.not_mem_nil, or_false] at h
  rcases h with rfl | h | rfl
  · exact mark
  · exact (isPlain_of_isNumeralChar (numeral c h)).1
  · exact mark

/-- The words and the quoted run are plain. -/
lemma isPlainText_malformed {run : List Char} (numeral : ∀ c ∈ run, isNumeralChar c = true) :
    IsPlainText (malformedWords ++ Text.quote (String.ofList run)) := by
  have words : IsPlainText malformedWords := by decide
  exact words.append fun c hc => (isPlain_of_mem_quote_run numeral hc).1

/-- **A longer run goes to the rows below**, all of it, and leaves the first row to the words. -/
lemma paragraph_of_long_run {run : List Char} (numeral : ∀ c ∈ run, isNumeralChar c = true)
    (long : Console.columns < (malformedWords ++ Text.quote (String.ofList run)).length) :
    ∃ below, Console.paragraph (malformedWords ++ Text.quote (String.ofList run)) =
      malformedWords ++ "\n" ++ below := by
  have plain := isPlainText_malformed numeral
  have pieces : malformedWords.toList.splitBy Console.sameWord =
      ["LexError: ".toList, "invalid ".toList, "number ".toList, "literal: ".toList] := by decide
  have sum : (["LexError: ".toList, "invalid ".toList, "number ".toList, "literal: ".toList].map
      Text.width).sum = malformedWords.length := by decide
  rw [String.length_append, ← sum, ← String.length_toList] at long
  obtain ⟨below, shown⟩ := Console.layout_of_long_word pieces (by decide) (by decide) (by decide)
    (by decide) (by decide)
    (fun c hc => (isPlain_of_mem_quote_run numeral hc).1.isVisible
      (isPlain_of_mem_quote_run numeral hc).2)
    long (by rw [toList_quote_run numeral]; exact List.cons_ne_nil _ _)
  refine ⟨String.ofList (below ++ ['\n']), ?_⟩
  rw [Console.paragraph, literal_of_isPlain plain, String.toList_append, shown, ← String.toList_inj]
  simp only [String.toList_append, String.toList_ofList, List.append_assoc, List.cons_append]
  rfl

/-- **The first line of a diagnostic** is its summary, as long as that is no longer than a row. A
longer one is about a run of digits and points, and its first line ends in front of the run. -/
lemma firstLine_of_summarized {summary : String} (h : Summarized summary) :
    (summary.length ≤ Console.columns ∧
        ∀ rest, firstLine (Console.paragraph summary ++ rest) = summary) ∨
      (Console.columns < summary.length ∧ ∃ run, (∀ c ∈ run, isNumeralChar c = true) ∧
        summary = malformedWords ++ Text.quote (String.ofList run) ∧
          ∀ rest, firstLine (Console.paragraph summary ++ rest) = malformedWords) := by
  cases h with
  | character c =>
      have verbatim := isVerbatim_of_character c
      exact Or.inl ⟨verbatim.fits, verbatim.firstLine_paragraph⟩
  | symbol complaint found =>
      have verbatim := isVerbatim_of_symbol complaint found
      exact Or.inl ⟨verbatim.fits, verbatim.firstLine_paragraph⟩
  | @run run numeral =>
      rcases Nat.lt_or_ge Console.columns
          (malformedWords ++ Text.quote (String.ofList run)).length with long | fits
      · obtain ⟨below, shown⟩ := paragraph_of_long_run numeral long
        refine Or.inr ⟨long, run, numeral, rfl, fun rest => ?_⟩
        have oneLine : '\n' ∉ malformedWords.toList := by decide
        have joined : malformedWords ++ "\n" ++ below ++ rest =
            malformedWords ++ "\n" ++ (below ++ rest) := String.append_assoc
        rw [shown, joined, firstLine_append oneLine]
      · have verbatim := isVerbatim_of_length_le (isPlainText_malformed numeral) fits
        exact Or.inl ⟨verbatim.fits, verbatim.firstLine_paragraph⟩

/-! ## Runs -/

/-- What the output shows of a value: its rows, which are the value itself if it fits on one. -/
structure ShowsValue (value output : String) : Prop where
  /-- The value is broken into rows. -/
  rows : ∃ rows, Console.BreaksInto value.toList rows ∧
    output = String.ofList (List.intercalate ['\n'] rows ++ ['\n'])
  /-- The value is shown as it is exactly if it is not longer than a row. -/
  verbatim : output = value ++ "\n" ↔ value.length ≤ Console.columns

/-- What the error output shows of a summary in its first line. -/
structure ShowsSummary (summary errors : String) : Prop where
  /-- A summary that is not longer than a row is shown as it is. -/
  verbatim : summary.length ≤ Console.columns → firstLine errors = summary
  /-- A longer one is about a run of digits and points that is no number, and the run is missing in
  the first line. -/
  broken : Console.columns < summary.length → firstLine errors = malformedWords ∧
    ∃ run, (∀ c ∈ run, isNumeralChar c = true) ∧
      summary = malformedWords ++ Text.quote (String.ofList run)

/-- A value on the output. -/
lemma showsValue_display (x : Binary64) (places : Option Nat) :
    ShowsValue (x.display places) (Console.paragraph (x.display places)) := by
  have plain : ∀ c ∈ (x.display places).toList, IsPlain c ∧ c ≠ ' ' :=
    fun c hc => isPlain_of_mem_display hc
  have some := display_ne_empty x places
  have noBreak : '\n' ∉ (x.display places).toList := fun m => absurd (plain _ m).1.1 (by decide)
  obtain ⟨rows, broken, shown⟩ := paragraph_of_isPlain some plain
  refine ⟨⟨rows, broken, shown⟩, ?_⟩
  rw [shown, ← String.length_toList, ← broken.intercalate_eq_iff some noBreak, ← String.toList_inj,
    String.toList_ofList, String.toList_append]
  exact List.append_left_inj _

namespace CommandLine

/-- **What an evaluation shows, word for word.** A value of eighty characters or less is all that
the output shows, and a longer one is broken there; a summary of eighty characters or less is the
first line of the error output, and a longer one is broken in front of a run of digits and points. -/
theorem eval_shows {surroundings : Surroundings} {options : List String} {settings : Settings}
    (configured : Configures surroundings options settings) (quiet : settings.logLevel.IsQuiet)
    (allowTrailing : Bool) (text input : String) :
    (∀ answer, (calculate text (allowTrailing || settings.allowTrailing)).outcome = .ok answer →
      (FitsPlaces settings → ShowsValue (answer.value.display settings.precision)
        (run surroundings (options ++ evalCommand ⟨false, false, allowTrailing⟩ text)
          input).output) ∧
      (¬ FitsPlaces settings →
        (run surroundings (options ++ evalCommand ⟨false, false, allowTrailing⟩ text)
          input).ending = .broken .tooManyPlaces)) ∧
    ∀ report, (calculate text (allowTrailing || settings.allowTrailing)).outcome = .error report →
      ShowsSummary report.summary
        (run surroundings (options ++ evalCommand ⟨false, false, allowTrailing⟩ text)
          input).errors := by
  constructor
  · intro answer houtcome
    refine ⟨fun fits => ?_, fun tooMany => ?_⟩
    · rw [trace_of_ok ⟨false, false, allowTrailing⟩ configured quiet fits houtcome]
      simp only [detailEvents, Bool.false_eq_true, if_false, List.append_nil, outputOf_nil,
        String.empty_append]
      exact showsValue_display answer.value settings.precision
    · rw [trace_of_tooManyPlaces ⟨false, false, allowTrailing⟩ configured quiet tooMany
        houtcome]
  · intro report houtcome
    obtain ⟨place, written⟩ := errorsOf_diagnosticEvents settings.logLevel report
    rw [trace_of_error ⟨false, false, allowTrailing⟩ configured quiet houtcome]
    simp only [written]
    rcases firstLine_of_summarized (summarized_of_calculate houtcome) with
      ⟨fits, shown⟩ | ⟨long, run, numeral, words, shown⟩
    · exact ⟨fun _ => shown place, fun long => absurd fits (Nat.not_le.mpr long)⟩
    · exact ⟨fun fits => absurd long (Nat.not_lt.mpr fits),
        fun _ => ⟨shown place, run, numeral, words⟩⟩

/-- A number with two places behind the point, and what is shown of its value; a run of points that is
missing in the first line of its diagnostic. -/
theorem eval_shows_logLevel :
    Configures emptySurroundings ["--log-level", "error"]
        { Settings.default with logLevel := .error } ∧
      LogLevel.error.IsQuiet ∧
      (∃ x, (calculate "7.25" false).outcome = .ok ⟨.leaf x, x⟩ ∧
        ShowsValue (x.display none)
          (run emptySurroundings ["--log-level", "error", "eval", "--", "7.25"] "").output) ∧
      ∃ report, (calculate (String.ofList (List.replicate 45 '.')) false).outcome = .error report ∧
        Console.columns < report.summary.length ∧
        firstLine (run emptySurroundings ["--log-level", "error", "eval", "--",
          String.ofList (List.replicate 45 '.')] "").errors = malformedWords := by
  have quiet : LogLevel.error.IsQuiet := by
    unfold LogLevel.IsQuiet
    decide
  have numeral : IsNumeral ['7', '.', '2', '5'] :=
    ⟨List.all_iff_forall_prop.mp (by decide), by decide, '7', by decide, by decide⟩
  obtain ⟨x, -, rounds⟩ := tokenize_of_isNumeral numeral
  have calculated := calculate_of_isNumeral numeral rounds false
  have value := (eval_shows configures_logLevel quiet false "7.25" "").1 _ calculated
  have points : ∀ c ∈ List.replicate 45 '.', isNumeralChar c = true :=
    List.all_iff_forall_prop.mp (by decide)
  obtain ⟨report, refused, summary⟩ :=
    calculate_of_malformed (by decide) points (Or.inl (by decide)) false
  have long : Console.columns < report.summary.length := by
    rw [summary, String.length_append, ← String.length_toList (s := Text.quote _),
      toList_quote_run points]
    decide
  have broken := (eval_shows configures_logLevel quiet false _ "").2 report refused
  exact ⟨configures_logLevel, quiet, ⟨x, calculated, value.1 (Nat.zero_le _)⟩,
    report, refused, long, (broken.broken long).1⟩

end CommandLine

end Calculator
