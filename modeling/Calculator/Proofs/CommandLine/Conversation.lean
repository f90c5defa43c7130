import Calculator.Proofs.CommandLine.Evaluation

/-!
# Conversations are evaluations in a row

Nothing but a count passes from one line of a conversation to the next. What is written is therefore
put together from what the evaluation of each expression writes on its own.

* The **entries** of some lines are what the lines say without the blanks around them, up to the
  first farewell (`heard`); those that are not empty are the expressions (`requests`).
* After most lines a conversation goes on (`GoesOn`): after an empty one, and after an expression that
  gets an answer on its own. `converse_append` says what it comes to behind such lines, by induction on
  these.
* It ends with the lines or at a farewell (`converse_of_answered`), and it stops at the first
  expression that gets no answer on its own (`converse_of_unanswered`).

`repl_transcript` states this for runs of the program.
-/

namespace Calculator.CommandLine

/-! ## Entries -/

/-- What a line says, without the blanks around it. -/
def stripped (line : String) : String :=
  Text.trimString Text.isBlank line

/-- Whether a text ends a conversation, in letters of either case. -/
def isFarewell (text : String) : Bool :=
  String.ofList (text.toList.map Char.toLower) ∈ farewells

/-- What is said before the first farewell, or before the lines come to an end. -/
def heard (lines : List String) : List String :=
  (lines.map stripped).takeWhile fun text => !isFarewell text

/-- The expressions among the lines of a conversation. -/
def requests (lines : List String) : List String :=
  (heard lines).filter fun text => !text.isEmpty

/-- An empty entry is no farewell. -/
lemma isFarewell_of_isEmpty {text : String} (h : text.isEmpty = true) :
    isFarewell text = false := by
  rw [String.isEmpty_iff] at h
  subst h
  decide

/-- Nothing is said without a line. -/
lemma heard_nil : heard [] = [] := rfl

/-- What is said before a farewell is heard. -/
lemma heard_append {front : List String} (stays : ∀ line ∈ front, isFarewell (stripped line) = false)
    (rest : List String) : heard (front ++ rest) = front.map stripped ++ heard rest := by
  rw [heard, List.map_append, List.takeWhile_append_of_pos]
  · rfl
  · intro text mem
    obtain ⟨line, hline, rfl⟩ := List.mem_map.mp mem
    rw [stays line hline]
    rfl

/-- What is said behind a farewell is not heard. -/
lemma heard_of_isFarewell {line : String} (h : isFarewell (stripped line) = true)
    (rest : List String) : heard (line :: rest) = [] := by
  simp [heard, h]

/-- A line that is no farewell is heard. -/
lemma heard_cons {line : String} (h : isFarewell (stripped line) = false) (rest : List String) :
    heard (line :: rest) = stripped line :: heard rest := by
  simp [heard, h]

/-! ## One line -/

/-- What is written because of an entry: the reply to an expression. -/
def answerEvents (settings : Settings) (text : String) : List Event :=
  if text.isEmpty then [] else (reply settings Session.options text).events

/-- A conversation goes on after an entry if it is no farewell, and no expression that gets no
answer. -/
structure GoesOn (settings : Settings) (text : String) : Prop where
  /-- It is no farewell. -/
  stays : isFarewell text = false
  /-- As an expression, it gets an answer. -/
  answered : text.isEmpty = false → IsAnswered settings Session.options text

/-- A conversation that has come past some entries. -/
def Session.counting (session : Session) (entries : List String) : Session :=
  { session with count := session.count + (entries.filter fun text => !text.isEmpty).length }

/-- The settings are kept. -/
@[simp] lemma Session.counting_settings (session : Session) (entries : List String) :
    (session.counting entries).settings = session.settings := rfl

/-- The prompt is kept. -/
@[simp] lemma Session.counting_prompt (session : Session) (entries : List String) :
    (session.counting entries).prompt = session.prompt := rfl

section Turns

variable {session : Session} {line : String}

/-- A farewell ends the conversation. -/
lemma enter_of_isFarewell (h : isFarewell (stripped line) = true) :
    session.enter line = .over ⟨session.closing, .success⟩ := by
  have notEmpty : ¬ (stripped line).isEmpty = true := by
    intro empty
    rw [isFarewell_of_isEmpty empty] at h
    cases h
  have entry : Entry.ofLine line = .farewell := by
    have word := of_decide_eq_true h
    unfold stripped at *
    rw [Entry.ofLine, if_neg notEmpty, if_pos word]
  rw [Session.enter, entry]

/-- What is neither empty nor a farewell is an expression. -/
lemma ofLine_eq_expression (notEmpty : (stripped line).isEmpty = false)
    (stays : isFarewell (stripped line) = false) :
    Entry.ofLine line = .expression (stripped line) := by
  have word := of_decide_eq_false stays
  unfold stripped at *
  rw [Entry.ofLine, if_neg (by simp [notEmpty]), if_neg word]

/-- **An expression is replied to as it is evaluated on its own**, and it is counted; an empty line
changes nothing. -/
lemma enter_of_goesOn (h : GoesOn session.settings (stripped line)) :
    session.enter line =
      .next (answerEvents session.settings (stripped line)) (session.counting [stripped line]) := by
  cases empty : (stripped line).isEmpty with
  | true =>
      have entry : Entry.ofLine line = .nothing := by
        unfold stripped at empty
        rw [Entry.ofLine, if_pos empty]
      simp [Session.enter, entry, answerEvents, Session.counting, empty]
  | false =>
      simp only [Session.enter, ofLine_eq_expression empty h.stays]
      rcases ending_of_isAnswered (h.answered empty) with success | failure
      · simp [success, answerEvents, Session.counting, empty]
      · simp [failure, answerEvents, Session.counting, empty]

/-- An expression that gets no answer on its own ends the conversation in the same way. -/
lemma enter_of_not_isAnswered (notEmpty : (stripped line).isEmpty = false)
    (stays : isFarewell (stripped line) = false)
    (unanswered : ¬ IsAnswered session.settings Session.options (stripped line)) :
    session.enter line = .over (reply session.settings Session.options (stripped line)) := by
  simp only [Session.enter, ofLine_eq_expression notEmpty stays,
    ending_of_not_isAnswered unanswered]

end Turns

/-! ## What the command line notes -/

/-- The log entries of one part of the program among what is written. -/
def notedBy (logger : Logger) (events : List Event) : List LogEntry :=
  events.filterMap fun event =>
    match event with
    | .log entry => if entry.logger = logger then some entry else none
    | _ => none

/-- The entries of one part of a run come before those of the next one. -/
@[simp] lemma notedBy_append (logger : Logger) (first second : List Event) :
    notedBy logger (first ++ second) = notedBy logger first ++ notedBy logger second :=
  List.filterMap_append

/-- Output is not noted. -/
@[simp] lemma notedBy_output (logger : Logger) (text : String) (events : List Event) :
    notedBy logger (.output text :: events) = notedBy logger events := rfl

/-- A calculation is noted by the parts that it is done by. -/
lemma notedBy_log (calculation : Calculation) :
    notedBy .commandLine (calculation.log.map Event.log) = [] := by
  unfold Calculation.log
  split <;> rfl

/-- What is shown is not noted. -/
lemma notedBy_detailEvents (logger : Logger) (flags : EvalOptions) (tokens : List Token)
    (tree : Expr) : notedBy logger (detailEvents flags tokens tree) = [] := by
  have shownTokens : notedBy logger (tokenEvents tokens) = [] := by
    refine List.filterMap_eq_nil_iff.mpr fun event mem => ?_
    obtain ⟨token, -, rfl⟩ := List.mem_map.mp mem
    rfl
  rw [detailEvents, notedBy_append]
  split_ifs
  · rw [shownTokens]
    rfl
  · rw [shownTokens]
    rfl
  · rfl
  · rfl

/-- The command line notes nothing in a reply. -/
lemma notedBy_reply (settings : Settings) (flags : EvalOptions) (text : String) :
    notedBy .commandLine (reply settings flags text).events = [] := by
  cases houtcome : (calculation settings flags text).outcome with
  | error report =>
      have reported : notedBy .commandLine (diagnosticEvents report) = [] := by
        unfold diagnosticEvents
        split <;> rfl
      rw [reply_of_error houtcome, notedBy_append, notedBy_log, reported]
      rfl
  | ok answer =>
      by_cases fits : FitsPlaces settings
      · rw [reply_of_ok fits houtcome, notedBy_append, notedBy_log, notedBy_append,
          notedBy_detailEvents]
        rfl
      · rw [reply_of_tooManyPlaces fits houtcome, notedBy_append, notedBy_log,
          notedBy_detailEvents]
        rfl

/-! ## What is written about entries -/

/-- What is written about some entries of a conversation: the prompt before each one, and the reply to
each expression. -/
def exchanges (settings : Settings) (prompt : String) (entries : List String) : List Event :=
  entries.flatMap fun text => .output (Console.prompt prompt) :: answerEvents settings text

/-- What is written about an entry comes before what is written about the next ones. -/
lemma exchanges_cons (settings : Settings) (prompt text : String) (entries : List String) :
    exchanges settings prompt (text :: entries) =
      .output (Console.prompt prompt) ::
        (answerEvents settings text ++ exchanges settings prompt entries) :=
  List.flatMap_cons

section Exchanges

variable (settings : Settings) (prompt : String) (entries : List String)

/-- The output about some entries is put together from the prompts and the outputs of the replies. -/
lemma outputOf_exchanges :
    outputOf (exchanges settings prompt entries) =
      String.join (entries.map fun text => Console.prompt prompt ++
        if text.isEmpty then "" else outputOf (reply settings Session.options text).events) := by
  induction entries with
  | nil => rfl
  | cons text entries ih =>
      have answer : outputOf (answerEvents settings text) =
          if text.isEmpty then "" else outputOf (reply settings Session.options text).events := by
        unfold answerEvents
        split_ifs
        · exact outputOf_nil
        · rfl
      rw [exchanges_cons, outputOf_cons, outputOf_append, answer, ih, List.map_cons,
        String.join_cons, String.append_assoc]
      rfl

/-- The error output about some entries is the one of the replies. -/
lemma errorsOf_exchanges (level : LogLevel) :
    errorsOf level (exchanges settings prompt entries) =
      String.join ((entries.filter fun text => !text.isEmpty).map fun text =>
        errorsOf level (reply settings Session.options text).events) := by
  induction entries with
  | nil => rfl
  | cons text entries ih =>
      rw [exchanges_cons, errorsOf_cons, errorsOf_append, ih]
      cases empty : text.isEmpty with
      | true => simp [answerEvents, empty, Event.errorPart]
      | false =>
          have answer : answerEvents settings text = (reply settings Session.options text).events :=
            if_neg (by simp [empty])
          simp [answer, empty, Event.errorPart]

/-- The command line notes nothing about an entry. -/
lemma notedBy_exchanges : notedBy .commandLine (exchanges settings prompt entries) = [] := by
  induction entries with
  | nil => rfl
  | cons text entries ih =>
      have answer : notedBy .commandLine (answerEvents settings text) = [] := by
        unfold answerEvents
        split_ifs
        · rfl
        · exact notedBy_reply settings Session.options text
      rw [exchanges_cons, notedBy_output, notedBy_append, answer, ih]
      rfl

end Exchanges

/-! ## All lines -/

/-- **Behind lines after which it goes on**, a conversation is one that begins there, but for the
count. -/
lemma converse_append (session : Session) {front : List String}
    (goesOn : ∀ line ∈ front, GoesOn session.settings (stripped line)) (rest : List String) :
    session.converse (front ++ rest) =
      ((session.counting (front.map stripped)).converse rest).after
        (exchanges session.settings session.prompt (front.map stripped)) := by
  induction front generalizing session with
  | nil => simp [Session.counting, Outcome.after, exchanges]
  | cons line front ih =>
      obtain ⟨first, later⟩ := List.forall_mem_cons.mp goesOn
      have counted : (session.counting [stripped line]).counting (front.map stripped) =
          session.counting ((line :: front).map stripped) := by
        cases empty : (stripped line).isEmpty <;>
          simp [Session.counting, empty, Nat.add_assoc, Nat.add_comm 1]
      have same := ih (session.counting [stripped line])
      simp only [Session.counting_settings, Session.counting_prompt, counted] at same
      rw [List.cons_append, Session.converse, enter_of_goesOn first]
      simp only [same later]
      simp [Outcome.after, exchanges_cons, Session.invitation]

/-- A conversation goes on after all lines, or there is a first one after which it does not. -/
lemma forall_goesOn_or (settings : Settings) (lines : List String) :
    (∀ line ∈ lines, GoesOn settings (stripped line)) ∨
      ∃ front line rest, lines = front ++ line :: rest ∧
        (∀ line ∈ front, GoesOn settings (stripped line)) ∧ ¬ GoesOn settings (stripped line) := by
  classical
  cases found : lines.find? fun line => ¬ GoesOn settings (stripped line) with
  | none =>
      refine Or.inl fun line mem => ?_
      simpa using List.find?_eq_none.mp found line mem
  | some line =>
      obtain ⟨stops, front, rest, rfl, goesOn⟩ := List.find?_eq_some_iff_append.mp found
      refine Or.inr ⟨front, line, rest, rfl, fun line mem => ?_, of_decide_eq_true stops⟩
      simpa using goesOn line mem

/-! ## Rows of evaluations -/

/-- A conversation is put together from runs that evaluate its expressions one by one. -/
structure JoinsEvaluations (evaluated : String → Trace) (invitation : String) (lines : List String)
    (trace : Trace) : Prop where
  /-- It is a success, also where expressions fail. -/
  status : trace.ending.status = 0
  /-- Its output: one prompt for each entry and for the end, the output of each expression behind
  its prompt, and a line end where the lines came to an end without a farewell. -/
  output : trace.output =
    String.join ((heard lines).map fun text =>
      invitation ++ if text.isEmpty then "" else (evaluated text).output) ++ invitation ++
        if (lines.map stripped).any isFarewell then "" else "\n"
  /-- Its error output: the error outputs of the expressions. -/
  errors : trace.errors = String.join ((requests lines).map fun text => (evaluated text).errors)

/-- A conversation stops at an expression in the same way as its evaluation, and what is written
until then stays written. -/
structure StopsAt (evaluated : String → Trace) (invitation : String) (before : List String)
    (text : String) (trace : Trace) : Prop where
  /-- It ends like the evaluation. -/
  ending : trace.ending = (evaluated text).ending
  /-- Its output: that about the entries before, one prompt more, and that of the evaluation. -/
  output : trace.output =
    String.join (before.map fun entry =>
      invitation ++ if entry.isEmpty then "" else (evaluated entry).output) ++ invitation ++
        (evaluated text).output
  /-- Its error output: the error outputs of the expressions before, and that of the evaluation. -/
  errors : trace.errors =
    String.join ((before.filter fun entry => !entry.isEmpty).map fun entry =>
      (evaluated entry).errors) ++ (evaluated text).errors

/-! ## How a conversation ends -/

/-- What is written about the end of the lines, which a farewell stands in for. -/
def lineEnd (lines : List String) : List Event :=
  if (lines.map stripped).any isFarewell then [] else [.shown ""]

/-- What is written in a conversation, all expressions of which get an answer. -/
def transcript (session : Session) (lines : List String) : List Event :=
  exchanges session.settings session.prompt (heard lines) ++ session.invitation ++ lineEnd lines ++
    (session.counting (heard lines)).closing

/-- A line end is all that is shown of nothing. -/
lemma paragraph_empty : Console.paragraph "" = "\n" := by
  decide

/-- Such a conversation joins the replies to its expressions. -/
lemma joinsEvaluations_transcript {level : LogLevel} (quiet : level.IsQuiet) (session : Session)
    (lines : List String) :
    JoinsEvaluations (fun text => (reply session.settings Session.options text).trace level)
      (Console.prompt session.prompt) lines
      (Outcome.trace ⟨transcript session lines, .success⟩ level) where
  status := rfl
  output := by
    have ended : outputOf (lineEnd lines) =
        if (lines.map stripped).any isFarewell then "" else "\n" := by
      unfold lineEnd
      split_ifs
      · exact outputOf_nil
      · simp [Event.shown, Event.outputPart, paragraph_empty]
    simp only [Outcome.trace, transcript, outputOf_append, outputOf_exchanges, ended]
    simp [Session.invitation, Session.closing, Event.outputPart]
  errors := by
    have ended : errorsOf level (lineEnd lines) = "" := by
      unfold lineEnd
      split_ifs
      · exact errorsOf_nil level
      · simp [Event.shown, Event.errorPart]
    simp only [Outcome.trace, transcript, errorsOf_append, errorsOf_exchanges, ended]
    simp [Session.invitation, Session.closing, Event.errorPart, quiet.admits_eq_false, requests]

/-- The number of its expressions is noted. -/
lemma notedBy_transcript (session : Session) (lines : List String) :
    notedBy .commandLine (transcript session lines) =
      [⟨.commandLine, .info, "repl finished after " ++
        Decimal.natural (session.count + (requests lines).length) ++ " expressions"⟩] := by
  have ended : notedBy .commandLine (lineEnd lines) = [] := by
    unfold lineEnd
    split_ifs
    · rfl
    · rfl
  simp only [transcript, notedBy_append, notedBy_exchanges, ended]
  rfl

/-- A reply behind what is written about some entries. -/
lemma stopsAt_after (level : LogLevel) (session : Session) (before : List String) (text : String) :
    StopsAt (fun text => (reply session.settings Session.options text).trace level)
      (Console.prompt session.prompt) before text
      (((reply session.settings Session.options text).after
        (exchanges session.settings session.prompt before ++ session.invitation)).trace level) where
  ending := rfl
  output := by
    simp [Outcome.trace, Outcome.after, outputOf_exchanges, Session.invitation, Event.outputPart,
      String.append_assoc]
  errors := by
    simp [Outcome.trace, Outcome.after, errorsOf_exchanges, Session.invitation, Event.errorPart]

/-- An expression among the lines in front of a farewell is asked for. -/
lemma mem_requests {settings : Settings} {front : List String} {line : String} {rest : List String}
    (goesOn : ∀ line ∈ front, GoesOn settings (stripped line))
    (stays : isFarewell (stripped line) = false) (notEmpty : (stripped line).isEmpty = false) :
    stripped line ∈ requests (front ++ line :: rest) := by
  rw [requests, heard_append fun line mem => (goesOn line mem).stays, heard_cons stays]
  simp [notEmpty]

/-- **A conversation goes on until the lines come to an end, or until a farewell**, if all its
expressions get an answer. -/
lemma converse_of_answered (session : Session) {lines : List String}
    (answered : ∀ text ∈ requests lines, IsAnswered session.settings Session.options text) :
    session.converse lines = ⟨transcript session lines, .success⟩ := by
  rcases forall_goesOn_or session.settings lines with goesOn | ⟨front, line, rest, rfl, goesOn, stops⟩
  · have entries : heard lines = lines.map stripped := by
      rw [← List.append_nil lines, heard_append fun line mem => (goesOn line mem).stays, heard_nil,
        List.append_nil, List.append_nil]
    have noFarewell : (lines.map stripped).any isFarewell = false := by
      simpa using fun line mem => (goesOn line mem).stays
    have past := converse_append session goesOn []
    rw [List.append_nil] at past
    rw [past, transcript, lineEnd, noFarewell, entries]
    simp [Session.converse, Outcome.after, Session.endOfLines, Session.invitation, Session.counting]
  · cases farewell : isFarewell (stripped line) with
    | false =>
        refine absurd ⟨farewell, fun notEmpty => ?_⟩ stops
        exact answered _ (mem_requests goesOn farewell notEmpty)
    | true =>
        have entries : heard (front ++ line :: rest) = front.map stripped := by
          rw [heard_append fun line mem => (goesOn line mem).stays, heard_of_isFarewell farewell,
            List.append_nil]
        have isFarewell : ((front ++ line :: rest).map stripped).any isFarewell = true := by
          simp [farewell]
        rw [converse_append session goesOn, Session.converse, enter_of_isFarewell farewell,
          transcript, lineEnd, isFarewell, entries]
        simp [Outcome.after, Session.invitation, Session.counting]

/-- The first expression that gets no answer among some lines, and the entries before it. -/
structure FirstUnanswered (settings : Settings) (lines before : List String) (text : String) :
    Prop where
  /-- The expression comes behind these entries. -/
  heard : before ++ [text] <+: heard lines
  /-- All expressions among these get an answer. -/
  answered : ∀ entry ∈ before, entry.isEmpty = false → IsAnswered settings Session.options entry
  /-- It is an expression. -/
  notEmpty : text.isEmpty = false
  /-- It gets no answer. -/
  unanswered : ¬ IsAnswered settings Session.options text

/-- **A conversation stops at the first expression that gets no answer**, behind all that comes of the
entries before it. -/
lemma converse_of_unanswered (session : Session) {lines : List String}
    (unanswered : ∃ text ∈ requests lines, ¬ IsAnswered session.settings Session.options text) :
    ∃ before text, FirstUnanswered session.settings lines before text ∧
      session.converse lines = (reply session.settings Session.options text).after
        (exchanges session.settings session.prompt before ++ session.invitation) := by
  obtain ⟨text, mem, unanswered⟩ := unanswered
  obtain ⟨mem, notEmpty⟩ := List.mem_filter.mp mem
  have notEmpty : text.isEmpty = false := by simpa using notEmpty
  rcases forall_goesOn_or session.settings lines with goesOn | ⟨front, line, rest, rfl, goesOn, stops⟩
  · obtain ⟨line, hline, rfl⟩ := List.mem_map.mp (List.takeWhile_subset _ mem)
    exact absurd ((goesOn line hline).answered notEmpty) unanswered
  · have front_heard := heard_append (fun line mem => (goesOn line mem).stays) (line :: rest)
    cases farewell : isFarewell (stripped line) with
    | true =>
        rw [front_heard, heard_of_isFarewell farewell, List.append_nil] at mem
        obtain ⟨line, hline, rfl⟩ := List.mem_map.mp mem
        exact absurd ((goesOn line hline).answered notEmpty) unanswered
    | false =>
        have notEmpty : (stripped line).isEmpty = false := by
          rw [Bool.eq_false_iff]
          intro empty
          refine stops ⟨farewell, fun notEmpty => ?_⟩
          rw [empty] at notEmpty
          cases notEmpty
        have broken : ¬ IsAnswered session.settings Session.options (stripped line) :=
          fun answered => stops ⟨farewell, fun _ => answered⟩
        refine ⟨front.map stripped, stripped line, ⟨?_, ?_, notEmpty, broken⟩, ?_⟩
        · rw [front_heard, heard_cons farewell]
          exact ⟨heard rest, by simp⟩
        · intro entry hentry
          obtain ⟨line, hline, rfl⟩ := List.mem_map.mp hentry
          exact (goesOn line hline).answered
        · have stopped : (session.counting (front.map stripped)).enter line =
              .over (reply session.settings Session.options (stripped line)) :=
            enter_of_not_isAnswered notEmpty farewell broken
          rw [converse_append session goesOn, Session.converse, stopped]
          simp [Outcome.after, Session.invitation, Session.counting]

/-! ## Runs -/

/-- **A conversation is a row of independent evaluations**, and it notes how many there were. It
stops without an answer exactly if one of the expressions does so on its own, and at the first of
these. -/
theorem repl_transcript {surroundings : Surroundings} {options : List String} {settings : Settings}
    (configured : Configures surroundings options settings) (quiet : settings.logLevel.IsQuiet)
    (prompt : Option String) (input : String) :
    ((∀ text ∈ requests (inputLines input), IsAnswered settings Session.options text) →
      JoinsEvaluations
          (fun text => run surroundings (options ++ evalCommand Session.options text) "")
          (Console.prompt (prompt.getD settings.prompt)) (inputLines input)
          (run surroundings (options ++ replCommand prompt) input) ∧
        ∃ job, prepare surroundings (options ++ replCommand prompt) = .ok job ∧
          notedBy .commandLine (job.outcome input).events = [⟨.commandLine, .info,
            "repl finished after " ++ Decimal.natural (requests (inputLines input)).length ++
              " expressions"⟩]) ∧
    ((∃ text ∈ requests (inputLines input), ¬ IsAnswered settings Session.options text) →
      (run surroundings (options ++ replCommand prompt) input).ending =
          .broken .tooManyPlaces ∧
        ∃ before text, FirstUnanswered settings (inputLines input) before text ∧
          StopsAt (fun text => run surroundings (options ++ evalCommand Session.options text) "")
            (Console.prompt (prompt.getD settings.prompt)) before text
            (run surroundings (options ++ replCommand prompt) input)) := by
  have evaluated : (fun text => run surroundings (options ++ evalCommand Session.options text) "") =
      fun text => (reply settings Session.options text).trace settings.logLevel :=
    funext fun text => run_evalCommand configured Session.options text ""
  rw [run_replCommand configured, evaluated]
  constructor
  · intro answered
    have converse := converse_of_answered (.start settings prompt) answered
    constructor
    · rw [converse]
      exact joinsEvaluations_transcript quiet (.start settings prompt) (inputLines input)
    · have prepared : prepare surroundings (options ++ replCommand prompt) =
          .ok ⟨settings, .repl prompt⟩ :=
        prepare_of_configures configured rfl (read?_replCommand prompt)
      refine ⟨_, prepared, ?_⟩
      show notedBy .commandLine ((Session.start settings prompt).converse (inputLines input)).events
        = _
      rw [converse, notedBy_transcript, Session.start, Nat.zero_add]
  · intro unanswered
    obtain ⟨before, text, first, converse⟩ :=
      converse_of_unanswered (.start settings prompt) unanswered
    have stops := stopsAt_after settings.logLevel (.start settings prompt) before text
    rw [converse]
    exact ⟨stops.ending.trans (ending_of_not_isAnswered first.unanswered), before, text, first,
      stops⟩

/-- A conversation of an expression, an empty line, a text that is no expression and a farewell;
nothing comes of the line behind it. -/
theorem repl_transcript_farewell :
    Configures emptySurroundings ["--log-level", "error"]
        { Settings.default with logLevel := .error } ∧
      LogLevel.error.IsQuiet ∧
      (∀ text ∈ requests (inputLines "1 / 0\n\n )\r\nQuit\n2"),
        IsAnswered { Settings.default with logLevel := .error } Session.options text) ∧
      (run emptySurroundings ["--log-level", "error", "repl", "--prompt", "> "]
          "1 / 0\n\n )\r\nQuit\n2").output =
        "> " ++ (run emptySurroundings ["--log-level", "error", "eval", "--", "1 / 0"] "").output ++
          "> " ++ "> " ++
            (run emptySurroundings ["--log-level", "error", "eval", "--", ")"] "").output ++
              "> " := by
  have quiet : LogLevel.error.IsQuiet := by
    unfold LogLevel.IsQuiet
    decide
  have answered : ∀ text ∈ requests (inputLines "1 / 0\n\n )\r\nQuit\n2"),
      IsAnswered { Settings.default with logLevel := .error } Session.options text :=
    fun _ _ => Or.inl (Nat.zero_le _)
  have joins := ((repl_transcript configures_logLevel quiet (some "> ")
    "1 / 0\n\n )\r\nQuit\n2").1 answered).1.output
  have entries : heard (inputLines "1 / 0\n\n )\r\nQuit\n2") = ["1 / 0", "", ")"] := by decide
  have ends : ((inputLines "1 / 0\n\n )\r\nQuit\n2").map stripped).any isFarewell = true := by
    decide
  have invitation : Console.prompt "> " = "> " := by decide
  have command (text : String) : ["--log-level", "error"] ++ evalCommand Session.options text =
      ["--log-level", "error", "eval", "--", text] := rfl
  have conversation : ["--log-level", "error"] ++ replCommand (some "> ") =
      ["--log-level", "error", "repl", "--prompt", "> "] := rfl
  rw [entries, ends, conversation] at joins
  refine ⟨configures_logLevel, quiet, answered, ?_⟩
  rw [joins]
  have quotient : "1 / 0".isEmpty = false := by decide
  have nothing : "".isEmpty = true := by decide
  have parenthesis : ")".isEmpty = false := by decide
  simp only [invitation, command, quotient, nothing, parenthesis, Option.getD_some,
    List.map_cons, List.map_nil, String.join_cons, String.join_nil, if_true, if_false,
    Bool.false_eq_true, String.append_assoc, String.append_empty]

end Calculator.CommandLine
