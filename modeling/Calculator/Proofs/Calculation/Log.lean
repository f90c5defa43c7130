import Calculator.Proofs.Calculation.Outcome
import Calculator.Proofs.Expr.Written
import Calculator.Proofs.Text.Plain
import Calculator.Proofs.Text.Unquoted

/-!
# What is noted about a source

A source may hold any characters, and what is noted about it cannot be mistaken for something else.

* Sources and what is found in them are only quoted. So all that is noted is printable, and so are
  the messages of diagnostics (`isPrintableText_of_mem_log`, `isPrintableText_logEntry`,
  `isPrintableText_of_error`): a source has no say in where a line ends.
* The entry that a calculation begins its log with has the source in quotation marks behind one of
  three words (`exists_opening`). A quoted text says where it ends, so the source can be read off.

`log_unforgeable` puts this together.
-/

namespace Calculator

/-! ## Printable texts -/

/-- Expressions are written in plain characters. -/
lemma isPlainText_render (expr : Expr) : IsPlainText expr.render := by
  rw [Expr.render_eq_parenthesized]
  induction expr with
  | leaf value => exact isPlainText_text value
  | foreign item => exact item.elim
  | node op left right ihl ihr =>
      have opening : IsPlainText "(" := by decide
      have operator : IsPlainText (" " ++ op.text ++ " ") := by cases op <;> decide
      have closing : IsPlainText ")" := by decide
      rw [Expr.parenthesized]
      exact (((opening.append ihl).append operator).append ihr).append closing

/-- A symbol is shown in printable characters. -/
lemma isPrintableText_shown (symbol : Symbol) : IsPrintableText symbol.shown := by
  cases symbol with
  | number value => exact (isPlainText_text value).isPrintableText
  | _ => exact isPrintableText_quote _

/-- A cause is worded in printable characters. -/
lemma isPrintableText_message (cause : Cause) : IsPrintableText cause.message := by
  have unknown : IsPlainText "unknown token: " := by decide
  have malformed : IsPlainText "invalid number literal: " := by decide
  cases cause with
  | unknownCharacter c => exact unknown.isPrintableText.append (isPrintableText_quote _)
  | malformedNumber text => exact malformed.isPrintableText.append (isPrintableText_quote _)
  | misplaced complaint found =>
      have objection : IsPlainText complaint.message := by cases complaint <;> decide
      have colon : IsPlainText ": " := by decide
      have front := (objection.append colon).isPrintableText
      by_cases atEnd : found = .endOfInput
      · subst atEnd
        have ending : IsPlainText ": end of input" := by decide
        exact (objection.append ending).isPrintableText
      · rw [Cause.message_misplaced complaint atEnd]
        exact front.append (isPrintableText_shown found)

/-- The kind of a diagnostic has a plain name. -/
lemma isPlainText_name (kind : Diagnostic.Kind) : IsPlainText kind.name := by
  cases kind <;> decide

/-- **All that a calculation notes is printable**, whatever its source is. -/
lemma isPrintableText_of_mem_log {source : String} {allowTrailing : Bool} {entry : LogEntry}
    (h : entry ∈ (calculate source allowTrailing).log) : IsPrintableText entry.text := by
  have quoted := isPrintableText_quote source
  unfold Calculation.log at h
  rw [outcome_calculate] at h
  cases houtcome : (parseSource source allowTrailing).outcome with
  | error fault =>
      rw [houtcome] at h
      rw [List.mem_singleton.mp h]
      have kind := isPlainText_name fault.cause.kind
      have inside : IsPlainText " in " := by decide
      have colon : IsPlainText ": " := by decide
      exact (((kind.append inside).isPrintableText.append quoted).append
        colon.isPrintableText).append (isPrintableText_message fault.cause)
  | ok tree =>
      rw [houtcome] at h
      rcases List.mem_cons.mp h with rfl | h
      · have parsed : IsPlainText "parsed " := by decide
        have colon : IsPlainText ": " := by decide
        have nodes : IsPlainText " nodes, depth " := by decide
        have size := isPlainText_natural tree.nodeCount
        have depth := isPlainText_natural tree.depth
        have front := (parsed.isPrintableText.append quoted).append colon.isPrintableText
        exact ((front.append size.isPrintableText).append nodes.isPrintableText).append
          depth.isPrintableText
      · rw [List.mem_singleton.mp h]
        have evaluated : IsPlainText "evaluated " := by decide
        have equals : IsPlainText " = " := by decide
        exact (((evaluated.append (isPlainText_render tree)).append equals).append
          (isPlainText_text tree.meaning)).isPrintableText

/-- The kind of a symbol has a plain name. -/
lemma isPlainText_kindName (symbol : Symbol) : IsPlainText symbol.kindName := by
  have number : IsPlainText "number" := by decide
  cases symbol with
  | number value => exact number
  | operator op => cases op <;> decide
  | _ => decide

/-- A token is noted in printable characters. -/
lemma isPrintableText_logEntry (token : Token) : IsPrintableText token.logEntry.text := by
  have opening : IsPlainText "token Token(" := by decide
  have comma : IsPlainText ", " := by decide
  have position : IsPlainText ", pos=" := by decide
  have closing : IsPlainText ")" := by decide
  have words : token.logEntry.text = "token Token(" ++ token.symbol.kindName ++ ", " ++
      token.symbol.shown ++ ", pos=" ++ Decimal.natural token.pos ++ ")" := by
    simp only [Token.logEntry, LogEntry.detail, Token.shown, ← String.append_assoc]
    rfl
  have front := (opening.append (isPlainText_kindName token.symbol)).append comma
  have shown := front.isPrintableText.append (isPrintableText_shown token.symbol)
  have number := isPlainText_natural token.pos
  rw [words]
  exact ((shown.append position.isPrintableText).append number.isPrintableText).append
    closing.isPrintableText

/-- **A calculation fails with printable messages**, whatever its source is. -/
lemma isPrintableText_of_error {source : String} {allowTrailing : Bool} {report : Diagnostic}
    (h : (calculate source allowTrailing).outcome = .error report) :
    IsPrintableText report.message ∧ IsPrintableText report.summary := by
  rw [outcome_calculate] at h
  cases houtcome : (parseSource source allowTrailing).outcome with
  | ok tree =>
      rw [houtcome] at h
      cases h
  | error fault =>
      rw [houtcome] at h
      cases h
      have message := isPrintableText_message fault.cause
      have colon : IsPlainText ": " := by decide
      have kind := (isPlainText_name fault.cause.kind).append colon
      exact ⟨message, kind.isPrintableText.append message⟩

/-! ## The source in its log -/

/-- The words in front of a source at the beginning of a log. -/
def openingWords : List String :=
  ["parsed ", "LexError in ", "ParseError in "]

/-- **A log begins with its source**, quoted behind one of these words. -/
lemma exists_opening (source : String) (allowTrailing : Bool) :
    ∃ words ∈ openingWords, ∃ entry later rest,
      (calculate source allowTrailing).log = entry :: later ∧
      entry.text = words ++ Text.quote source ++ rest := by
  unfold Calculation.log
  rw [outcome_calculate]
  cases houtcome : (parseSource source allowTrailing).outcome with
  | error fault =>
      have lexical : Diagnostic.Kind.lexical.name ++ " in " ∈ openingWords := by decide
      have syntactic : Diagnostic.Kind.syntactic.name ++ " in " ∈ openingWords := by decide
      have known : fault.cause.kind.name ++ " in " ∈ openingWords := by
        cases fault.cause with
        | misplaced complaint found => exact syntactic
        | _ => exact lexical
      exact ⟨_, known, _, _, ": " ++ fault.cause.message, rfl, String.append_assoc ..⟩
  | ok tree =>
      refine ⟨"parsed ", by decide, _, _, ": " ++ Decimal.natural tree.nodeCount ++
        " nodes, depth " ++ Decimal.natural tree.depth, rfl, ?_⟩
      simp only [Expr.readEntry, LogEntry.detail, String.append_assoc]
      rfl

/-- The words differ in their first characters. -/
lemma openingWords_inj {words words' : String} (h : words ∈ openingWords)
    (h' : words' ∈ openingWords) {rest rest' : List Char}
    (same : words.toList ++ rest = words'.toList ++ rest') : words = words' := by
  have first : ∀ words ∈ openingWords, ∀ words' ∈ openingWords,
      words.toList.head? = words'.toList.head? → words = words' := by decide
  have some : ∀ words ∈ openingWords, words.toList.head?.isSome := by decide
  apply first words h words' h'
  have heads := congrArg List.head? same
  rwa [List.head?_append, List.head?_append, Option.or_of_isSome (some words h),
    Option.or_of_isSome (some words' h')] at heads

/-- **The source can be read off the log.** -/
lemma source_eq_of_log_eq {source source' : String} {allowTrailing allowTrailing' : Bool}
    (same : (calculate source allowTrailing).log = (calculate source' allowTrailing').log) :
    source = source' := by
  obtain ⟨words, known, entry, later, rest, noted, text⟩ := exists_opening source allowTrailing
  obtain ⟨words', known', entry', later', rest', noted', text'⟩ :=
    exists_opening source' allowTrailing'
  rw [noted, noted'] at same
  obtain ⟨rfl, -⟩ := List.cons.inj same
  have characters := congrArg String.toList (text.symm.trans text')
  simp only [String.toList_append, List.append_assoc, Text.toList_quote] at characters
  obtain rfl := openingWords_inj known known' characters
  have behind := List.append_cancel_left characters
  exact String.toList_inj.mp (Text.quoteChars_append_inj behind).1

/-- **What is noted about a source cannot be forged**, whatever characters the source has.

* The messages of a calculation that fails stay on their lines, and so does every entry that the
  calculation or the lexer notes.
* The source is quoted there as no other source is, and the log of another source is another. -/
theorem log_unforgeable (source : String) (allowTrailing : Bool) :
    (∀ report, (calculate source allowTrailing).outcome = .error report →
      StaysOnLine report.message ∧ StaysOnLine report.summary) ∧
    (∀ entry ∈ (calculate source allowTrailing).log ++ (tokenize source).1.map Token.logEntry,
      StaysOnLine entry.text) ∧
    (∀ other, Text.quote other = Text.quote source → other = source) ∧
    ∀ other allowTrailing',
      (calculate other allowTrailing').log = (calculate source allowTrailing).log →
        other = source := by
  refine ⟨?_, ?_, fun _ => Text.quote_inj.mp, fun _ _ => source_eq_of_log_eq⟩
  · intro report failed
    obtain ⟨message, summary⟩ := isPrintableText_of_error failed
    exact ⟨message.staysOnLine, summary.staysOnLine⟩
  · intro entry noted
    rcases List.mem_append.mp noted with calculation | lexer
    · exact (isPrintableText_of_mem_log calculation).staysOnLine
    · obtain ⟨token, -, rfl⟩ := List.mem_map.mp lexer
      exact (isPrintableText_logEntry token).staysOnLine

/-- A source that begins with a command to the screen, and one that is written like it when quoted.
-/
theorem log_unforgeable_command :
    (calculate "\x1b[2K" false).outcome =
        .error (Fault.diagnostic ⟨.unknownCharacter '\x1b', 0⟩ "\x1b[2K") ∧
      StaysOnLine "unknown token: \x27\\x1b\x27" ∧
      StaysOnLine "LexError: unknown token: \x27\\x1b\x27" ∧
      StaysOnLine "LexError in \x27\\x1b[2K\x27: unknown token: \x27\\x1b\x27" ∧
      Text.quote "\\x1b[2K" ≠ Text.quote "\x1b[2K" ∧
      (calculate "\\x1b[2K" true).log ≠ (calculate "\x1b[2K" false).log := by
  have tokens : tokenize "\x1b[2K" = ([], some ⟨.unknownCharacter '\x1b', 0⟩) := by
    have scanned : scan "\x1b[2K".toList = .lexeme 0 ['\x1b'] "[2K".toList := rfl
    rw [tokenize_eq_tokensAt, tokensAt_of_fault scanned rfl]
  have failed := outcome_calculate_of_fault tokens false
  obtain ⟨messages, entries, quoted, logs⟩ := log_unforgeable "\x1b[2K" false
  obtain ⟨message, summary⟩ := messages _ failed
  have other : "\\x1b[2K" ≠ "\x1b[2K" := by decide
  refine ⟨failed, message, summary, ?_, fun same => other (quoted _ same),
    fun same => other (logs _ _ same)⟩
  apply entries ⟨.pipeline, .debug, _⟩
  apply List.mem_append_left
  rw [Calculation.log, failed]
  exact List.mem_singleton_self _

end Calculator
