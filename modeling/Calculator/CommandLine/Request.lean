import Calculator.CommandLine.Arguments

/-!
# What a command line asks for

A command line gives options of the program itself, then the name of a command, then the arguments
of that command (`General.read?`). There are two commands: one evaluates an expression, and one
holds a conversation (`Command.read?`).
-/

namespace Calculator.CommandLine

/-! ## The options of the program -/

/-- An option of the program. -/
inductive General.Opt
  /-- Show the version. -/
  | version
  /-- Where the settings file is. -/
  | settingsFile
  /-- Which log entries are let through. -/
  | logLevel
deriving DecidableEq

/-- The names of the options of the program. What stands behind the first operand belongs to the
command. -/
def General.vocabulary : Vocabulary General.Opt where
  long := [("--version", .version), ("--config", .settingsFile), ("--log-level", .logLevel)]
  short := [('v', .version), ('c', .settingsFile)]
  takesValue
    | .version => false
    | .settingsFile | .logLevel => true
  interspersed := false

/-- What a command line says about the program, and the command that follows. -/
structure General where
  /-- Whether the version is to be shown. -/
  version : Bool
  /-- Where the settings file is, if that is said. -/
  settingsFile : Option String
  /-- The name of a log level, if one is given. -/
  logLevel : Option String
  /-- The name of the command with its arguments. -/
  command : List String

/-- Read a command line up to the name of the command. -/
def General.read? (arguments : List String) : Option General :=
  (Arguments.read? General.vocabulary arguments).map fun read =>
    ⟨read.has .version, read.lastValue? .settingsFile, read.lastValue? .logLevel, read.operands⟩

/-! ## Commands -/

/-- The name of a command. -/
inductive CommandName
  | eval
  | repl
deriving DecidableEq

/-- The command of a name. -/
def CommandName.ofText? : String → Option CommandName
  | "eval" => some .eval
  | "repl" => some .repl
  | _ => none

/-- What is shown for an expression, and how it is read. -/
structure EvalOptions where
  /-- Whether the tokens are shown. -/
  showTokens : Bool
  /-- Whether the tree is shown. -/
  showTree : Bool
  /-- Whether tokens may follow a complete expression. -/
  allowTrailing : Bool
deriving DecidableEq

/-- A command with its arguments. -/
inductive Command
  /-- Evaluate one expression. -/
  | eval (options : EvalOptions) (expression : String)
  /-- Hold a conversation, with a prompt of its own if one is given. -/
  | repl (prompt : Option String)
deriving DecidableEq

/-- An option of the command that evaluates one expression. -/
inductive EvalOptions.Opt
  | tokens
  | tree
  | allowTrailing
deriving DecidableEq

/-- The names of the options of the command that evaluates one expression. -/
def EvalOptions.vocabulary : Vocabulary EvalOptions.Opt where
  long := [("--tokens", .tokens), ("--ast", .tree), ("--allow-trailing", .allowTrailing)]
  short := []
  takesValue _ := false
  interspersed := true

/-- The option of the command that holds a conversation: its prompt. -/
inductive ReplOption
  | prompt
deriving DecidableEq

/-- The names of the option of the command that holds a conversation. -/
def ReplOption.vocabulary : Vocabulary ReplOption where
  long := [("--prompt", .prompt)]
  short := [('p', .prompt)]
  takesValue _ := true
  interspersed := true

/-- The command of a name with its arguments: one operand for an evaluation, none for a
conversation. -/
def Command.read? (name : CommandName) (arguments : List String) : Option Command :=
  match name with
  | .eval =>
      match Arguments.read? EvalOptions.vocabulary arguments with
      | some read =>
          match read.operands with
          | [expression] =>
              some (.eval ⟨read.has .tokens, read.has .tree, read.has .allowTrailing⟩ expression)
          | _ => none
      | none => none
  | .repl =>
      match Arguments.read? ReplOption.vocabulary arguments with
      | some read => if read.operands.isEmpty then some (.repl (read.lastValue? .prompt)) else none
      | none => none

/-- Behind the end of the options every text is an expression. -/
@[simp] theorem Command.read?_eval_endOfOptions (expression : String) :
    Command.read? .eval [Arguments.endOfOptions, expression] =
      some (.eval ⟨false, false, false⟩ expression) := by
  simp [Command.read?, Arguments.has]

end Calculator.CommandLine
