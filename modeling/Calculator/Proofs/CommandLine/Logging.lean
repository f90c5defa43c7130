import Mathlib.Tactic.Common
import Calculator.Proofs.Calculation.Log
import Calculator.Proofs.CommandLine.Conversation

/-!
# What a log level changes

A log level decides which log entries are written. Nothing else of a run depends on it.

* What a run comes to is settled before its level is looked at (`outcomeOf`, `outcomeOf_congr`): the
  settings of two jobs may differ in the level, and no reply looks at it.
* The error output is made of lines (`ErrorLine`), the lines of the diagnostics and one line for
  each log entry (`errorsOf_eq_written`). For this, all that is noted has to be printable, which is
  so because sources are only quoted there, and a diagnostic has to end its last line.

`run_logLevel` compares two runs.
-/

namespace Calculator

namespace CommandLine

/-! ## Whole lines -/

/-- An event writes whole lines on the error output, and no more than one of them for a log entry.
-/
inductive WholeLines : Event → Prop
  /-- Output does not go there. -/
  | output (text : String) : WholeLines (.output text)
  /-- A text ends its last line. -/
  | error {text : String} {body : List Char} (ends : text.toList = body ++ ['\n']) :
      WholeLines (.error text)
  /-- A log entry is printable. -/
  | log {entry : LogEntry} (printable : IsPrintableText entry.text) : WholeLines (.log entry)

/-- Where one part of a run writes whole lines, and the next one does, the two do. -/
lemma forall_wholeLines_append {first second : List Event} (h : ∀ event ∈ first, WholeLines event)
    (h' : ∀ event ∈ second, WholeLines event) : ∀ event ∈ first ++ second, WholeLines event :=
  List.forall_mem_append.mpr ⟨h, h'⟩

/-- The log of a calculation is whole lines. -/
lemma wholeLines_of_mem_log {source : String} {allowTrailing : Bool} :
    ∀ event ∈ (calculate source allowTrailing).log.map Event.log, WholeLines event := by
  intro event mem
  obtain ⟨entry, noted, rfl⟩ := List.mem_map.mp mem
  exact .log (isPrintableText_of_mem_log noted)

/-- A diagnostic is whole lines. -/
lemma wholeLines_of_mem_diagnosticEvents {report : Diagnostic} :
    ∀ event ∈ diagnosticEvents report, WholeLines event := by
  intro event mem
  unfold diagnosticEvents at mem
  rcases List.mem_cons.mp mem with rfl | mem
  · exact .error String.toList_ofList
  · cases hplace : report.place with
    | none =>
        rw [hplace] at mem
        cases mem
    | some place =>
        rw [hplace] at mem
        rw [List.mem_singleton.mp mem]
        exact .error String.toList_ofList

/-- Tokens and trees do not go to the error output. -/
lemma wholeLines_of_mem_detailEvents {flags : EvalOptions} {tokens : List Token} {tree : Expr} :
    ∀ event ∈ detailEvents flags tokens tree, WholeLines event := by
  apply forall_wholeLines_append
  · intro event mem
    split_ifs at mem
    · obtain ⟨token, -, rfl⟩ := List.mem_map.mp mem
      exact .output _
    · cases mem
  · intro event mem
    split_ifs at mem
    · rcases List.mem_cons.mp mem with rfl | mem
      · exact .output _
      · rw [List.mem_singleton.mp mem]
        exact .output _
    · cases mem

/-- **A reply writes whole lines.** -/
lemma wholeLines_of_mem_reply {settings : Settings} {flags : EvalOptions} {text : String} :
    ∀ event ∈ (reply settings flags text).events, WholeLines event := by
  cases houtcome : (calculation settings flags text).outcome with
  | error report =>
      rw [reply_of_error houtcome]
      exact forall_wholeLines_append wholeLines_of_mem_log wholeLines_of_mem_diagnosticEvents
  | ok answer =>
      by_cases fits : FitsPlaces settings
      · rw [reply_of_ok fits houtcome]
        apply forall_wholeLines_append wholeLines_of_mem_log
        apply forall_wholeLines_append wholeLines_of_mem_detailEvents
        intro event mem
        rw [List.mem_singleton.mp mem]
        exact .output _
      · rw [reply_of_tooManyPlaces fits houtcome]
        exact forall_wholeLines_append wholeLines_of_mem_log wholeLines_of_mem_detailEvents

/-- An invitation goes to the output. -/
lemma wholeLines_invitation (session : Session) :
    ∀ event ∈ session.invitation, WholeLines event := by
  intro event mem
  rw [List.mem_singleton.mp mem]
  exact .output _

/-- The closing entry is one line. -/
lemma wholeLines_closing (session : Session) : ∀ event ∈ session.closing, WholeLines event := by
  have front : IsPlainText "repl finished after " := by decide
  have back : IsPlainText " expressions" := by decide
  intro event mem
  rw [List.mem_singleton.mp mem]
  exact .log ((front.append (isPlainText_natural session.count)).append back).isPrintableText

/-- What is written because of a line. -/
def Turn.events : Turn → List Event
  | .next events _ => events
  | .over outcome => outcome.events

/-- What follows from a line writes whole lines. -/
lemma wholeLines_of_mem_enter (session : Session) (line : String) :
    ∀ event ∈ (session.enter line).events, WholeLines event := by
  cases hentry : Entry.ofLine line with
  | nothing =>
      simp only [Session.enter, hentry]
      exact List.forall_mem_nil _
  | farewell =>
      simp only [Session.enter, hentry]
      exact wholeLines_closing session
  | expression source =>
      simp only [Session.enter, hentry]
      split
      · exact wholeLines_of_mem_reply
      · exact wholeLines_of_mem_reply

/-- **A conversation writes whole lines.** -/
lemma wholeLines_of_mem_converse {session : Session} {lines : List String} :
    ∀ event ∈ (session.converse lines).events, WholeLines event := by
  have invited := wholeLines_invitation
  induction lines generalizing session with
  | nil =>
      refine forall_wholeLines_append (invited session) ?_
      exact List.forall_mem_cons.mpr ⟨.output _, wholeLines_closing session⟩
  | cons line rest ih =>
      have shown := wholeLines_of_mem_enter session line
      rw [Session.converse]
      rcases turned : session.enter line with ⟨events, session'⟩ | ⟨outcome⟩
      · rw [turned] at shown
        exact forall_wholeLines_append (forall_wholeLines_append (invited session) shown) ih
      · rw [turned] at shown
        exact forall_wholeLines_append (invited session) shown

/-! ## What a run comes to -/

/-- What a run comes to. -/
def outcomeOf (surroundings : Surroundings) (arguments : List String) (input : String) : Outcome :=
  match prepare surroundings arguments with
  | .error outcome => outcome
  | .ok job => job.outcome input

/-- Nothing goes to the error output. -/
def Outcome.IsSilent (outcome : Outcome) : Prop :=
  ∀ event ∈ outcome.events, ∃ text, event = .output text

/-- Where nothing is written, nothing goes to the error output. -/
lemma isSilent_nil (ending : Ending) : Outcome.IsSilent ⟨[], ending⟩ :=
  List.forall_mem_nil _

/-- Settings that cannot be loaded are not written about. -/
lemma isSilent_of_load {room : Nat} {environment : String → Option String} {file : Option String}
    {outcome : Outcome}
    (h : (Settings.load room environment file).mapError Outcome.ofFault = .error outcome) :
    outcome.IsSilent := by
  obtain ⟨fault, -, rfl⟩ := mapError_eq_error_iff.mp h
  unfold Outcome.ofFault
  split <;> exact isSilent_nil _

/-- Where there are no settings, nothing is written. -/
lemma isSilent_of_settingsFrom {surroundings : Surroundings} {path : Option String}
    {outcome : Outcome} (h : settingsFrom surroundings path = .error outcome) :
    outcome.IsSilent := by
  unfold settingsFrom at h
  split at h
  · cases h
    exact isSilent_nil _
  · exact isSilent_of_load h
  · cases h
    exact isSilent_nil _
  · exact isSilent_of_load h

/-- The version is written on the output. -/
lemma isSilent_versionOutcome (surroundings : Surroundings) :
    (versionOutcome surroundings).IsSilent := by
  intro event mem
  exact ⟨_, List.mem_singleton.mp mem⟩

/-- Where no command is named, the version is written, or nothing. -/
lemma isSilent_unknownCommand (surroundings : Surroundings) (arguments : List String) :
    (unknownCommand surroundings arguments).IsSilent := by
  unfold unknownCommand
  split
  · split_ifs
    · exact isSilent_versionOutcome surroundings
    · exact isSilent_nil _
  · exact isSilent_nil _

/-- A log level that does not exist is not written about. -/
lemma isSilent_of_settings {surroundings : Surroundings} {general : General} {outcome : Outcome}
    (h : general.settings surroundings = .error outcome) : outcome.IsSilent := by
  unfold General.settings at h
  cases loaded : settingsFrom surroundings general.settingsFile with
  | error found =>
      rw [loaded] at h
      cases h
      exact isSilent_of_settingsFrom loaded
  | ok settings =>
      rw [loaded] at h
      change withLogLevel settings general.logLevel = .error outcome at h
      unfold withLogLevel at h
      split at h
      · cases h
      · split at h
        · cases h
        · cases h
          exact isSilent_nil _

/-- **A run without a job says nothing on the error output.** -/
lemma isSilent_of_prepare {surroundings : Surroundings} {arguments : List String}
    {outcome : Outcome} (h : prepare surroundings arguments = .error outcome) :
    outcome.IsSilent := by
  unfold prepare at h
  split at h
  next unread =>
    cases h
    exact isSilent_nil _
  next general read =>
    split_ifs at h with version
    · cases h
      exact isSilent_versionOutcome surroundings
    · split at h
      next noCommand =>
        cases h
        exact isSilent_nil _
      next text rest named =>
        split at h
        next unknown =>
          cases h
          exact isSilent_unknownCommand surroundings _
        next name known =>
          split at h
          next found unsettled =>
            cases h
            exact isSilent_of_settings unsettled
          next settings settled =>
            split at h
            next misused =>
              cases h
              exact isSilent_nil _
            next => cases h

/-! ## Independence of the level -/

/-- Settings with a log level. -/
def atLevel (level : LogLevel) (settings : Settings) : Settings :=
  { settings with logLevel := level }

/-- A job with a log level in its settings. -/
def Job.atLevel (level : LogLevel) (job : Job) : Job :=
  { job with settings := CommandLine.atLevel level job.settings }

/-- A conversation with a log level in its settings. -/
def Session.atLevel (level : LogLevel) (session : Session) : Session :=
  { session with settings := CommandLine.atLevel level session.settings }

/-- What follows from a line, with a log level in the settings of the conversation that goes on. -/
def Turn.atLevel (level : LogLevel) : Turn → Turn
  | .next events session => .next events (session.atLevel level)
  | .over outcome => .over outcome

/-- What follows from a line does not depend on the level. -/
lemma enter_atLevel (level : LogLevel) (session : Session) (line : String) :
    (session.atLevel level).enter line = (session.enter line).atLevel level := by
  cases hentry : Entry.ofLine line with
  | nothing =>
      simp only [Session.enter, hentry]
      rfl
  | farewell =>
      simp only [Session.enter, hentry]
      rfl
  | expression source =>
      have same : reply (session.atLevel level).settings Session.options source =
          reply session.settings Session.options source := rfl
      simp only [Session.enter, hentry, same]
      cases (reply session.settings Session.options source).ending <;> rfl

/-- **What is written in a conversation does not depend on the level.** -/
lemma converse_atLevel (level : LogLevel) (session : Session) (lines : List String) :
    (session.atLevel level).converse lines = session.converse lines := by
  induction lines generalizing session with
  | nil => rfl
  | cons line rest ih =>
      rw [Session.converse, Session.converse, enter_atLevel]
      rcases session.enter line with ⟨events, session'⟩ | ⟨outcome⟩
      · simp only [Turn.atLevel, ih]
        rfl
      · rfl

/-- **What a job comes to does not depend on the level.** -/
lemma outcome_atLevel (level : LogLevel) (job : Job) (input : String) :
    (job.atLevel level).outcome input = job.outcome input := by
  obtain ⟨settings, command⟩ := job
  cases command with
  | eval options expression => rfl
  | repl prompt =>
      exact converse_atLevel level (.start settings prompt) (inputLines input)

variable {surroundings : Surroundings} {general : General} {first second : List String}
  {name name' : String} {level level' : LogLevel}

/-- A log level that is named in front of a command holds instead of the one from the settings. -/
lemma settings_named {version : Bool} {path : Option String} {command : List String}
    (gives : Settings.GivesLevel (.text name) level) :
    General.settings ⟨version, path, some name, command⟩ surroundings =
      (settingsFrom surroundings path).map (atLevel level) := by
  show (settingsFrom surroundings path).bind _ = _
  cases settingsFrom surroundings path with
  | error outcome => rfl
  | ok settings =>
      show withLogLevel settings (some name) = .ok (atLevel level settings)
      exact withLogLevel_of_gives gives

/-- **Command lines that name different levels** are prepared alike but for the level. -/
lemma prepare_atLevel
    (hfirst : General.read? first = some { general with logLevel := some name })
    (hsecond : General.read? second = some { general with logLevel := some name' })
    (gives : Settings.GivesLevel (.text name) level)
    (gives' : Settings.GivesLevel (.text name') level') :
    prepare surroundings second = (prepare surroundings first).map (Job.atLevel level') := by
  simp only [prepare, hfirst, hsecond]
  split_ifs with version
  · rfl
  · cases general.command with
    | nil => rfl
    | cons text rest =>
        simp only
        cases CommandName.ofText? text with
        | none => rfl
        | some command =>
            simp only [settings_named gives, settings_named gives']
            cases settingsFrom surroundings general.settingsFile with
            | error outcome => rfl
            | ok settings =>
                simp only [Except.map]
                cases Command.read? command rest <;> rfl

/-- **What a run comes to does not depend on the level.** -/
lemma outcomeOf_congr
    (hfirst : General.read? first = some { general with logLevel := some name })
    (hsecond : General.read? second = some { general with logLevel := some name' })
    (gives : Settings.GivesLevel (.text name) level)
    (gives' : Settings.GivesLevel (.text name') level') (input : String) :
    outcomeOf surroundings second input = outcomeOf surroundings first input := by
  rw [outcomeOf, outcomeOf, prepare_atLevel hfirst hsecond gives gives']
  cases prepare surroundings first with
  | error outcome => rfl
  | ok job => exact outcome_atLevel level' job input

/-- What an outcome leaves behind that says nothing on the error output does not depend on the
level. -/
lemma trace_of_isSilent {outcome : Outcome} (h : outcome.IsSilent) (level level' : LogLevel) :
    outcome.trace level = outcome.trace level' := by
  have empty (level : LogLevel) : errorsOf level outcome.events = "" := by
    apply errorsOf_eq_empty
    intro event mem
    obtain ⟨text, rfl⟩ := h event mem
    rfl
  rw [Outcome.trace, Outcome.trace, empty, empty]

/-- **The level of a run** is the one that is named in front of the command. -/
lemma run_eq_trace (hread : General.read? first = some { general with logLevel := some name })
    (gives : Settings.GivesLevel (.text name) level) (input : String) :
    run surroundings first input = (outcomeOf surroundings first input).trace level := by
  have levelled : prepare surroundings first =
      (prepare surroundings first).map (Job.atLevel level) :=
    prepare_atLevel hread hread gives gives
  rw [run, outcomeOf]
  cases prepared : prepare surroundings first with
  | error outcome => exact trace_of_isSilent (isSilent_of_prepare prepared) _ _
  | ok job =>
      rw [prepared] at levelled
      have same : job = job.atLevel level := Except.ok.inj levelled
      have named : job.settings.logLevel = level := by rw [same]; rfl
      rw [← named]

/-- **A run writes whole lines on the error output.** -/
lemma wholeLines_outcomeOf (surroundings : Surroundings) (arguments : List String)
    (input : String) :
    ∀ event ∈ (outcomeOf surroundings arguments input).events, WholeLines event := by
  unfold outcomeOf
  split
  next outcome prepared =>
    intro event mem
    obtain ⟨text, rfl⟩ := isSilent_of_prepare prepared event mem
    exact .output text
  next job prepared =>
    obtain ⟨settings, command⟩ := job
    cases command with
    | eval options expression => exact wholeLines_of_mem_reply
    | repl prompt => exact wholeLines_of_mem_converse

/-! ## Lines -/

/-- A line of the error output. -/
inductive ErrorLine
  /-- A line of a diagnostic. -/
  | report (text : String)
  /-- The line of a log entry. -/
  | log (entry : LogEntry)

namespace ErrorLine

/-- The text of a line, without the line end. -/
def text : ErrorLine → String
  | report text => text
  | log entry => "[" ++ entry.severity.name ++ "] " ++ entry.logger.name ++ ": " ++ entry.text

/-- Whether a line is written at some log level: a log entry if the level lets it through, and
everything else in any case. -/
def passes (level : LogLevel) : ErrorLine → Bool
  | report _ => true
  | log entry => level.admits entry.severity

end ErrorLine

/-- What some lines come to on the error output. -/
def written (lines : List ErrorLine) : String :=
  String.join (lines.map fun line => line.text ++ "\n")

/-- The lines of a text, all of which have a line end. -/
def reportLines (text : String) : List ErrorLine :=
  (text.toList.splitOn '\n').dropLast.map fun line => .report (String.ofList line)

/-- The lines of an event on the error output, whatever the level. -/
def Event.errorLines : Event → List ErrorLine
  | output _ => []
  | error text => reportLines text
  | log entry => [.log entry]

/-- The lines of a run on the error output, whatever the level. -/
def errorLines (events : List Event) : List ErrorLine :=
  events.flatMap Event.errorLines

/-- Lines with their ends are lines with ends between them and behind them. -/
lemma flatMap_lineEnd {lines : List (List Char)} (some : lines ≠ []) :
    lines.flatMap (· ++ ['\n']) = List.intercalate ['\n'] lines ++ ['\n'] := by
  induction lines with
  | nil => exact absurd rfl some
  | cons line rest ih =>
      cases rest with
      | nil => simp
      | cons next rest =>
          rw [List.flatMap_cons, ih (List.cons_ne_nil _ _)]
          simp

/-- No piece of a text that was split at its line ends has a line end in it. -/
lemma newline_notMem_of_mem_splitOn {text piece : List Char} (h : piece ∈ text.splitOn '\n') :
    '\n' ∉ piece := by
  induction text generalizing piece with
  | nil =>
      rw [List.mem_singleton.mp h]
      exact List.not_mem_nil
  | cons c rest ih =>
      rw [List.splitOn_cons_eq_if_modifyHead] at h
      split_ifs at h with lineEnd
      · rcases List.mem_cons.mp h with rfl | h
        · exact List.not_mem_nil
        · exact ih h
      · obtain ⟨head, tail, split⟩ := List.exists_cons_of_ne_nil (List.splitOn_ne_nil '\n' rest)
        rw [split] at h ih
        rcases List.mem_cons.mp h with rfl | h
        · intro mem
          rcases List.mem_cons.mp mem with rfl | mem
          · exact lineEnd (beq_self_eq_true _)
          · exact ih List.mem_cons_self mem
        · exact ih (List.mem_cons_of_mem head h)

/-- The lines of a text that ends its last line are the pieces between the line ends. -/
lemma reportLines_of_ends {text : String} {body : List Char} (ends : text.toList = body ++ ['\n']) :
    reportLines text = (body.splitOn '\n').map fun line => .report (String.ofList line) := by
  rw [reportLines, ends, List.splitOn_append_cons_self, List.splitOn_nil, List.dropLast_concat]

/-- One behind the other, they come to the text. -/
lemma written_reportLines {text : String} {body : List Char} (ends : text.toList = body ++ ['\n']) :
    written (reportLines text) = text := by
  rw [reportLines_of_ends ends, written, ← String.toList_inj, ends, List.map_map]
  have joined : (body.splitOn '\n').flatMap (· ++ ['\n']) = body ++ ['\n'] := by
    rw [flatMap_lineEnd (List.splitOn_ne_nil _ _), List.intercalate_splitOn]
  rw [← joined]
  generalize body.splitOn '\n' = pieces
  induction pieces with
  | nil => rfl
  | cons piece pieces ih => simp_all [ErrorLine.text]

/-- What some lines come to is put together like the lines. -/
lemma written_append (first second : List ErrorLine) :
    written (first ++ second) = written first ++ written second := by
  simp [written]

/-- An event writes those of its lines that the level lets through. -/
lemma errorPart_eq_written {event : Event} (whole : WholeLines event) (level : LogLevel) :
    event.errorPart level = written (event.errorLines.filter (·.passes level)) := by
  cases whole with
  | output text => rfl
  | @error text body ends =>
      have all : (reportLines text).filter (·.passes level) = reportLines text := by
        rw [List.filter_eq_self]
        intro line mem
        obtain ⟨piece, -, rfl⟩ := List.mem_map.mp mem
        rfl
      show text = written ((reportLines text).filter (·.passes level))
      rw [all, written_reportLines ends]
  | @log entry printable =>
      have line : written [.log entry] = entry.line := by
        simp [written, ErrorLine.text, LogEntry.line]
      show (if level.admits entry.severity then entry.line else "") =
        written ([ErrorLine.log entry].filter (·.passes level))
      rw [List.filter_cons, List.filter_nil]
      show _ = written (if level.admits entry.severity then [.log entry] else [])
      split_ifs
      · exact line.symm
      · rfl

/-- **The error output of a run is made of those of its lines that the level lets through.** -/
lemma errorsOf_eq_written {events : List Event} (whole : ∀ event ∈ events, WholeLines event)
    (level : LogLevel) :
    errorsOf level events = written ((errorLines events).filter (·.passes level)) := by
  induction events with
  | nil => rfl
  | cons event events ih =>
      obtain ⟨first, later⟩ := List.forall_mem_cons.mp whole
      rw [errorsOf_cons, ih later, errorPart_eq_written first, ← written_append,
        ← List.filter_append]
      rfl

/-- A line has no line end in it. -/
lemma newline_notMem_errorLines {events : List Event} (whole : ∀ event ∈ events, WholeLines event)
    {line : ErrorLine} (h : line ∈ errorLines events) : '\n' ∉ line.text.toList := by
  obtain ⟨event, mem, inside⟩ := List.mem_flatMap.mp h
  cases whole event mem with
  | output text => cases inside
  | @error text body ends =>
      rw [Event.errorLines, reportLines_of_ends ends] at inside
      obtain ⟨piece, hpiece, rfl⟩ := List.mem_map.mp inside
      rw [ErrorLine.text, String.toList_ofList]
      exact newline_notMem_of_mem_splitOn hpiece
  | @log entry printable =>
      rw [List.mem_singleton.mp inside]
      have bracket : IsPrintableText "[" := by
        intro c hc
        rw [List.mem_singleton.mp hc]
        decide
      have severity : IsPlainText entry.severity.name := by cases entry.severity <;> decide
      have behind : IsPlainText "] " := by decide
      have logger : IsPlainText entry.logger.name := by cases entry.logger <;> decide
      have colon : IsPlainText ": " := by decide
      have label := ((bracket.append severity.isPrintableText).append
        behind.isPrintableText).append logger.isPrintableText
      exact ((label.append colon.isPrintableText).append printable).newline_notMem

/-! ## Two runs -/

/-- Two runs that differ in the level alone, the level of the second one being at least as high;
`lines` are the lines on the error output of the first one. -/
structure DifferInLog (high : LogLevel) (lines : List ErrorLine) (first second : Trace) : Prop where
  /-- The outputs are the same. -/
  output : second.output = first.output
  /-- The runs end in the same way. -/
  ending : second.ending = first.ending
  /-- The lines make up the first error output. -/
  errors : first.errors = written lines
  /-- They are lines. -/
  oneLine : ∀ line ∈ lines, '\n' ∉ line.text.toList
  /-- On the second error output, exactly the log entries are missing that the higher level holds
  back, and all other lines stand there in the same order. -/
  rest : second.errors = written (lines.filter (·.passes high))

/-- **A log level changes nothing but the log.** Of two command lines that differ in the level that
they name, the one with the higher level comes to the same, with fewer log entries. -/
theorem run_logLevel
    (hfirst : General.read? first = some { general with logLevel := some name })
    (hsecond : General.read? second = some { general with logLevel := some name' })
    (gives : Settings.GivesLevel (.text name) level)
    (gives' : Settings.GivesLevel (.text name') level') (higher : level.rank ≤ level'.rank)
    (input : String) :
    DifferInLog level'
      ((errorLines (outcomeOf surroundings first input).events).filter (·.passes level))
      (run surroundings first input) (run surroundings second input) := by
  have whole := wholeLines_outcomeOf surroundings first input
  rw [run_eq_trace hfirst gives, run_eq_trace hsecond gives',
    outcomeOf_congr hfirst hsecond gives gives']
  generalize outcomeOf surroundings first input = outcome at *
  exact {
    output := rfl
    ending := rfl
    errors := errorsOf_eq_written whole level
    oneLine := fun line mem => newline_notMem_errorLines whole (List.mem_filter.mp mem).1
    rest := by
      show errorsOf level' outcome.events = _
      rw [errorsOf_eq_written whole level', List.filter_filter]
      congr 1
      apply List.filter_congr
      intro line mem
      cases line with
      | report text => rfl
      | log entry =>
          show level'.admits entry.severity =
            (level'.admits entry.severity && level.admits entry.severity)
          cases admitted : level'.admits entry.severity with
          | false => rfl
          | true => rw [LogLevel.admits_of_rank_le higher admitted]; rfl }

/-- A conversation with an expression that fails and one that succeeds, at the lowest level and at a
high one. -/
theorem run_logLevel_conversation :
    LogLevel.notset.rank ≤ LogLevel.error.rank ∧
      DifferInLog .error
        ((errorLines (outcomeOf emptySurroundings ["--log-level", "notset", "repl"]
          "1 +\n(2)\n").events).filter (·.passes .notset))
        (run emptySurroundings ["--log-level", "notset", "repl"] "1 +\n(2)\n")
        (run emptySurroundings ["--log-level", "Error", "repl"] "1 +\n(2)\n") := by
  have ranks : LogLevel.notset.rank ≤ LogLevel.error.rank := by decide
  have general : ∀ name, General.read? ["--log-level", name, "repl"] =
      some { (⟨false, none, none, ["repl"]⟩ : General) with logLevel := some name } := fun _ => rfl
  have notset : Settings.GivesLevel (.text "notset") .notset := .text (by decide)
  have error : Settings.GivesLevel (.text "Error") .error := .text (by decide)
  exact ⟨ranks, run_logLevel (general "notset") (general "Error") notset error ranks _⟩

end CommandLine

end Calculator
