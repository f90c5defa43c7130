import Calculator.CommandLine.Reply
import Calculator.Text.Lines

/-!
# Conversations

A conversation replies to one line after another, and nothing but a count is carried from line to
line (`Session`). Before each line the prompt is written. A line without its blanks at both ends is
a request (`Entry.ofLine`): an empty one is passed over, a farewell ends the conversation, and all
else is an expression. Where the lines come to an end, the open line is ended first. A conversation
closes with a log entry that says how many expressions there were, unless it stops without an answer.
-/

namespace Calculator.CommandLine

/-- What a line asks for. -/
inductive Entry
  /-- Nothing. -/
  | nothing
  /-- The end of the conversation. -/
  | farewell
  /-- A reply to an expression. -/
  | expression (source : String)
deriving DecidableEq

/-- The words that end a conversation. -/
def farewells : List String := ["quit", "exit"]

/-- What a line asks for. A farewell may be written in letters of either case. -/
def Entry.ofLine (line : String) : Entry :=
  let source := Text.trimString Text.isBlank line
  if source.isEmpty then .nothing
  else if String.ofList (source.toList.map Char.toLower) ∈ farewells then .farewell
  else .expression source

/-- A conversation between two lines. -/
structure Session where
  /-- The settings that hold in it. -/
  settings : Settings
  /-- What is written before a line. -/
  prompt : String
  /-- How many expressions there were. -/
  count : Nat

/-- What follows from a line. -/
inductive Turn
  /-- The conversation goes on. -/
  | next (events : List Event) (session : Session)
  /-- The conversation is over. -/
  | over (outcome : Outcome)

namespace Session

/-- A new conversation. A prompt that is given with the command counts before the one of the
settings. -/
def start (settings : Settings) (prompt : Option String) : Session :=
  ⟨settings, prompt.getD settings.prompt, 0⟩

/-- Only the value of an expression is shown in a conversation. -/
def options : EvalOptions := ⟨false, false, false⟩

/-- What is written before a line. -/
def invitation (session : Session) : List Event :=
  [.output (Console.prompt session.prompt)]

/-- What is written when a conversation is over. -/
def closing (session : Session) : List Event :=
  [.log ⟨.commandLine, .info,
    "repl finished after " ++ Decimal.natural session.count ++ " expressions"⟩]

/-- What is written at the end of the lines. -/
def endOfLines (session : Session) : List Event :=
  .shown "" :: session.closing

/-- What follows from a line. A reply that stops without an answer ends the conversation. -/
def enter (session : Session) (line : String) : Turn :=
  match Entry.ofLine line with
  | .nothing => .next [] session
  | .farewell => .over ⟨session.closing, .success⟩
  | .expression source =>
      let r := reply session.settings options source
      match r.ending with
      | .broken _ => .over r
      | _ => .next r.events { session with count := session.count + 1 }

/-- What a conversation about some lines comes to. -/
def converse (session : Session) : List String → Outcome
  | [] => ⟨session.invitation ++ session.endOfLines, .success⟩
  | line :: rest =>
      match session.enter line with
      | .over outcome => outcome.after session.invitation
      | .next events session' => (session'.converse rest).after (session.invitation ++ events)

end Session

/-- The lines that are entered with an input. -/
def inputLines (input : String) : List String :=
  (Text.lines input.toList).map String.ofList

end Calculator.CommandLine
