import Calculator.Proofs.CommandLine.Preparation

/-!
# Runs that evaluate one expression

An evaluation writes its value to the output and a diagnostic to the error output, never both, and
its status says which of the two it was. There is one way out: a value cannot be displayed with more
than `mostPlaces` decimal places, and the settings may ask for more.

* `trace_of_error`, `trace_of_ok` and `trace_of_tooManyPlaces` say what a run under a quiet log
  level comes to, by the outcome of its calculation.
* `eval_streams` puts them together. The tokens and the tree are written in front of the value, and
  only where there is one, so asking for them changes nothing else.
-/

namespace Calculator.CommandLine

/-! ## Texts of events -/

/-- The output of the first event comes first. -/
@[simp] lemma outputOf_cons (event : Event) (events : List Event) :
    outputOf (event :: events) = event.outputPart ++ outputOf events := by
  simp [outputOf]

/-- The error output of the first event comes first. -/
@[simp] lemma errorsOf_cons (level : LogLevel) (event : Event) (events : List Event) :
    errorsOf level (event :: events) = event.errorPart level ++ errorsOf level events := by
  simp [errorsOf]

/-- Where no event has a part, the parts are nothing together. -/
lemma join_map_eq_empty {part : Event → String} {events : List Event}
    (h : ∀ event ∈ events, part event = "") : String.join (events.map part) = "" := by
  induction events with
  | nil => rfl
  | cons event events ih =>
      obtain ⟨first, later⟩ := List.forall_mem_cons.mp h
      rw [List.map_cons, String.join_cons, first, ih later]
      rfl

/-- Events that write nothing on the output leave it empty. -/
lemma outputOf_eq_empty {events : List Event} (h : ∀ event ∈ events, event.outputPart = "") :
    outputOf events = "" :=
  join_map_eq_empty h

/-- Events that write nothing on the error output leave it empty. -/
lemma errorsOf_eq_empty {level : LogLevel} {events : List Event}
    (h : ∀ event ∈ events, event.errorPart level = "") : errorsOf level events = "" :=
  join_map_eq_empty h

/-- Log entries do not go to the output. -/
@[simp] lemma outputOf_log (entries : List LogEntry) : outputOf (entries.map Event.log) = "" := by
  apply outputOf_eq_empty
  simp [Event.outputPart]

/-- Under a quiet level, log entries go nowhere. -/
lemma errorsOf_log {level : LogLevel} (quiet : level.IsQuiet) (entries : List LogEntry) :
    errorsOf level (entries.map Event.log) = "" := by
  apply errorsOf_eq_empty
  simp [Event.errorPart, quiet.admits_eq_false]

/-- A diagnostic does not go to the output. -/
lemma outputOf_diagnosticEvents (report : Diagnostic) :
    outputOf (diagnosticEvents report) = "" := by
  apply outputOf_eq_empty
  intro event mem
  unfold diagnosticEvents at mem
  cases hplace : report.place with
  | none =>
      rw [hplace] at mem
      rw [List.mem_singleton.mp mem]
      rfl
  | some place =>
      rw [hplace] at mem
      rcases List.mem_cons.mp mem with rfl | mem
      · rfl
      · rw [List.mem_singleton.mp mem]
        rfl

/-- A diagnostic is written on the error output, its summary first. -/
lemma errorsOf_diagnosticEvents (level : LogLevel) (report : Diagnostic) :
    ∃ place, errorsOf level (diagnosticEvents report) =
      Console.paragraph report.summary ++ place :=
  ⟨_, errorsOf_cons level _ _⟩

/-- What is shown besides the value of an expression: its tokens and its tree, if they are asked
for. -/
def detailEvents (flags : EvalOptions) (tokens : List Token) (tree : Expr) : List Event :=
  (if flags.showTokens then tokenEvents tokens else []) ++
    if flags.showTree then treeEvents tree else []

/-- Tokens and trees do not go to the error output. -/
lemma errorsOf_detailEvents (level : LogLevel) (flags : EvalOptions) (tokens : List Token)
    (tree : Expr) : errorsOf level (detailEvents flags tokens tree) = "" := by
  apply errorsOf_eq_empty
  intro event mem
  rcases List.mem_append.mp mem with htokens | htree
  · split_ifs at htokens
    · obtain ⟨token, -, rfl⟩ := List.mem_map.mp htokens
      rfl
    · cases htokens
  · split_ifs at htree
    · rcases List.mem_cons.mp htree with rfl | htree
      · rfl
      · rw [List.mem_singleton.mp htree]
        rfl
    · cases htree

/-! ## Outcomes -/

section Outcomes

variable {settings : Settings} {flags : EvalOptions} {text : String}

/-- The calculation that an evaluation is about: tokens may follow the expression if the settings or
the command say so. -/
def calculation (settings : Settings) (flags : EvalOptions) (text : String) : Calculation :=
  calculate text (flags.allowTrailing || settings.allowTrailing)

/-- The settings ask for no more decimal places than a value can be displayed with. -/
def FitsPlaces (settings : Settings) : Prop :=
  settings.precision.getD 0 ≤ mostPlaces

/-- The reply to an expression without a value. -/
lemma reply_of_error {report : Diagnostic}
    (h : (calculation settings flags text).outcome = .error report) :
    reply settings flags text =
      ⟨(calculation settings flags text).log.map Event.log ++ diagnosticEvents report,
        .failure⟩ := by
  unfold calculation at *
  simp only [reply, h]

/-- The reply to an expression with a value that can be displayed. -/
lemma reply_of_ok {answer : Answer} (fits : FitsPlaces settings)
    (h : (calculation settings flags text).outcome = .ok answer) :
    reply settings flags text =
      ⟨(calculation settings flags text).log.map Event.log ++
        (detailEvents flags (calculation settings flags text).tokens answer.expr ++
          [.shown (answer.value.display settings.precision)]), .success⟩ := by
  have shown : displayed settings answer.value = .ok (answer.value.display settings.precision) :=
    if_neg (Nat.not_lt.mpr fits)
  unfold calculation at *
  simp only [reply, h, shown, detailEvents, List.append_assoc]

/-- The reply to an expression with a value that cannot be displayed stops in front of the value. -/
lemma reply_of_tooManyPlaces {answer : Answer} (tooMany : ¬ FitsPlaces settings)
    (h : (calculation settings flags text).outcome = .ok answer) :
    reply settings flags text =
      ⟨(calculation settings flags text).log.map Event.log ++
        detailEvents flags (calculation settings flags text).tokens answer.expr,
          .broken .tooManyPlaces⟩ := by
  have shown : displayed settings answer.value = .error .tooManyPlaces :=
    if_pos (Nat.not_le.mp tooMany)
  unfold calculation at *
  simp only [reply, h, shown, detailEvents, List.append_assoc]

/-- There is an answer to an expression, unless it has a value and too many decimal places of it are
asked for. -/
def IsAnswered (settings : Settings) (flags : EvalOptions) (text : String) : Prop :=
  FitsPlaces settings ∨ ∃ report, (calculation settings flags text).outcome = .error report

/-- The reply to an expression that gets an answer does not stop without one. -/
lemma ending_of_isAnswered (h : IsAnswered settings flags text) :
    (reply settings flags text).ending = .success ∨
      (reply settings flags text).ending = .failure := by
  cases houtcome : (calculation settings flags text).outcome with
  | error report =>
      rw [reply_of_error houtcome]
      exact Or.inr rfl
  | ok answer =>
      rcases h with fits | ⟨report, hreport⟩
      · rw [reply_of_ok fits houtcome]
        exact Or.inl rfl
      · rw [hreport] at houtcome
        cases houtcome

/-- The reply to any other expression does. -/
lemma ending_of_not_isAnswered (h : ¬ IsAnswered settings flags text) :
    (reply settings flags text).ending = .broken .tooManyPlaces := by
  cases houtcome : (calculation settings flags text).outcome with
  | error report => exact absurd (Or.inr ⟨report, houtcome⟩) h
  | ok answer => rw [reply_of_tooManyPlaces (fun fits => h (Or.inl fits)) houtcome]

end Outcomes

/-! ## Runs -/

section Runs

variable {surroundings : Surroundings} {options : List String} {settings : Settings}
  (flags : EvalOptions) {text : String}

/-- **An evaluation that fails** writes its diagnostic on the error output, and nothing else. -/
lemma trace_of_error (configured : Configures surroundings options settings)
    (quiet : settings.logLevel.IsQuiet) {report : Diagnostic}
    (h : (calculation settings flags text).outcome = .error report) (input : String) :
    run surroundings (options ++ evalCommand flags text) input =
      ⟨"", errorsOf settings.logLevel (diagnosticEvents report), .failure⟩ := by
  rw [run_evalCommand configured, reply_of_error h]
  simp [Outcome.trace, errorsOf_log quiet, outputOf_diagnosticEvents]

/-- **An evaluation that succeeds** writes the value on the output, behind what else is asked for,
and nothing on the error output. -/
lemma trace_of_ok (configured : Configures surroundings options settings)
    (quiet : settings.logLevel.IsQuiet) (fits : FitsPlaces settings) {answer : Answer}
    (h : (calculation settings flags text).outcome = .ok answer) (input : String) :
    run surroundings (options ++ evalCommand flags text) input =
      ⟨outputOf (detailEvents flags (calculation settings flags text).tokens answer.expr) ++
        Console.paragraph (answer.value.display settings.precision), "", .success⟩ := by
  rw [run_evalCommand configured, reply_of_ok fits h]
  simp [Outcome.trace, errorsOf_log quiet, errorsOf_detailEvents, Event.shown, Event.outputPart,
    Event.errorPart]

/-- An evaluation that would succeed stops without an answer if too many places are asked for. What
stands in front of the value has been written then. -/
lemma trace_of_tooManyPlaces (configured : Configures surroundings options settings)
    (quiet : settings.logLevel.IsQuiet) (tooMany : ¬ FitsPlaces settings) {answer : Answer}
    (h : (calculation settings flags text).outcome = .ok answer) (input : String) :
    run surroundings (options ++ evalCommand flags text) input =
      ⟨outputOf (detailEvents flags (calculation settings flags text).tokens answer.expr), "",
        .broken .tooManyPlaces⟩ := by
  rw [run_evalCommand configured, reply_of_tooManyPlaces tooMany h]
  simp [Outcome.trace, errorsOf_log quiet, errorsOf_detailEvents]

/-- What a run that evaluates an expression keeps to, by the outcome of the calculation; `plain` is
the run that shows neither tokens nor tree. -/
structure KeepsStreams (settings : Settings) (outcome : Except Diagnostic Answer)
    (plain trace : Trace) : Prop where
  /-- With a value the run is a success and its error output stays empty. -/
  ofValue : ∀ answer, outcome = .ok answer → FitsPlaces settings →
    trace.ending.status = 0 ∧ trace.errors = ""
  /-- A value that cannot be displayed ends the run without an answer, and nothing is written about
  it. -/
  ofTooManyPlaces : ∀ answer, outcome = .ok answer → ¬ FitsPlaces settings →
    trace.ending = .broken .tooManyPlaces ∧ trace.errors = "" ∧ plain.output = ""
  /-- Without a value the run is a failure, its output stays empty, and the error output says
  something. -/
  ofDiagnostic : ∀ report, outcome = .error report →
    trace.ending.status = 1 ∧ trace.output = "" ∧ trace.errors ≠ ""
  /-- Tokens and tree change nothing in how the run ends. -/
  ending : trace.ending = plain.ending
  /-- Tokens and tree change nothing on the error output. -/
  errors : trace.errors = plain.errors
  /-- Tokens and tree stand in front of what is written without them. -/
  output : plain.output.toList <:+ trace.output.toList

/-- **An evaluation keeps its streams and its status apart**, whatever the text, the settings and
the options of the command. -/
theorem eval_streams (configured : Configures surroundings options settings)
    (quiet : settings.logLevel.IsQuiet) (flags : EvalOptions) (text input : String) :
    KeepsStreams settings
      (calculate text (flags.allowTrailing || settings.allowTrailing)).outcome
      (run surroundings (options ++ evalCommand ⟨false, false, flags.allowTrailing⟩ text) input)
      (run surroundings (options ++ evalCommand flags text) input) := by
  have both (tokens tree : Bool) :
      calculation settings ⟨tokens, tree, flags.allowTrailing⟩ text =
        calculate text (flags.allowTrailing || settings.allowTrailing) := rfl
  have same := both flags.showTokens flags.showTree
  cases houtcome : (calculate text (flags.allowTrailing || settings.allowTrailing)).outcome with
  | error report =>
      have failed := trace_of_error flags configured quiet (same ▸ houtcome) input
      have plain := trace_of_error ⟨false, false, flags.allowTrailing⟩ configured quiet
        ((both false false) ▸ houtcome) input
      obtain ⟨place, written⟩ := errorsOf_diagnosticEvents settings.logLevel report
      rw [failed, plain]
      exact {
        ofValue := nofun
        ofTooManyPlaces := nofun
        ofDiagnostic := by
          rintro _ -
          refine ⟨rfl, rfl, ?_⟩
          simp [written, Console.paragraph]
        ending := rfl
        errors := rfl
        output := List.suffix_rfl }
  | ok answer =>
      by_cases fits : FitsPlaces settings
      · have succeeded := trace_of_ok flags configured quiet fits (same ▸ houtcome) input
        have plain := trace_of_ok ⟨false, false, flags.allowTrailing⟩ configured quiet fits
          ((both false false) ▸ houtcome) input
        rw [succeeded, plain]
        exact {
          ofValue := fun _ _ _ => ⟨rfl, rfl⟩
          ofTooManyPlaces := fun _ _ tooMany => absurd fits tooMany
          ofDiagnostic := nofun
          ending := rfl
          errors := rfl
          output := by
            simp only [detailEvents, Bool.false_eq_true, if_false, List.append_nil, outputOf_nil,
              String.empty_append, String.toList_append]
            exact List.suffix_append _ _ }
      · have broken := trace_of_tooManyPlaces flags configured quiet fits (same ▸ houtcome) input
        have plain := trace_of_tooManyPlaces ⟨false, false, flags.allowTrailing⟩ configured quiet
          fits ((both false false) ▸ houtcome) input
        have nothing : outputOf (detailEvents ⟨false, false, flags.allowTrailing⟩
            (calculation settings ⟨false, false, flags.allowTrailing⟩ text).tokens answer.expr) =
              "" := by
          simp [detailEvents]
        rw [nothing] at plain
        rw [broken, plain]
        exact {
          ofValue := fun _ _ places => absurd places fits
          ofTooManyPlaces := fun _ _ _ => ⟨rfl, rfl, rfl⟩
          ofDiagnostic := nofun
          ending := rfl
          errors := rfl
          output := List.nil_suffix }

/-- Two texts under the default settings with a log level that is named in front of the command: one
of them with its tokens. -/
theorem eval_streams_logLevel :
    Configures emptySurroundings ["--log-level", "error"]
        { Settings.default with logLevel := .error } ∧
      LogLevel.error.IsQuiet ∧
      ∀ text ∈ ["1 / 0", "2 * (3"], KeepsStreams { Settings.default with logLevel := .error }
        (calculate text false).outcome
        (run emptySurroundings ["--log-level", "error", "eval", "--", text] "")
        (run emptySurroundings ["--log-level", "error", "eval", "--tokens", "--", text] "") := by
  have quiet : LogLevel.error.IsQuiet := by
    unfold LogLevel.IsQuiet
    decide
  refine ⟨configures_logLevel, quiet, fun text _ => ?_⟩
  exact eval_streams configures_logLevel quiet ⟨true, false, false⟩ text ""

end Runs

end Calculator.CommandLine
