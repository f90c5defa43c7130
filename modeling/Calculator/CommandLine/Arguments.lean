/-!
# Arguments of a command

The arguments of a command are options and operands, in any order or with the options first, as its
vocabulary says.

* An argument that begins with a hyphen and goes on is an option. Its **long name** is all of it, or
  what stands before its first equals sign; a value may follow this sign. What is no long name and
  begins with a single hyphen is a **cluster** of short names of one character each, and what stands
  behind the name of an option with a value is this value.
* An option with a value that has none in its argument takes the next argument, whatever that is.
* Two hyphens alone end the options: all that follows are operands. A hyphen alone is an operand.
* An option may be given more than once; of several values the last one counts
  (`Arguments.lastValue?`).

`Arguments.read?` reads arguments, and refuses them if an option has no such name, lacks its value,
or has a value that it does not take.
-/

namespace Calculator.CommandLine

/-- The options that a command understands. -/
structure Vocabulary (Opt : Type) where
  /-- The options with a long name. -/
  long : List (String × Opt)
  /-- The options with a short name. -/
  short : List (Char × Opt)
  /-- Whether an option has a value. -/
  takesValue : Opt → Bool
  /-- Whether options may stand behind an operand. -/
  interspersed : Bool

/-- An option that was given, with its value if it has one. -/
structure Given (Opt : Type) where
  /-- The option. -/
  option : Opt
  /-- Its value. -/
  value : Option String

/-- What one argument gives: some options, and perhaps one more whose value is the next argument. -/
structure Cluster (Opt : Type) where
  /-- The options that are complete. -/
  given : List (Given Opt)
  /-- The option that waits for its value. -/
  open? : Option Opt

namespace Vocabulary

variable {Opt : Type} (v : Vocabulary Opt)

/-- The options that a cluster of short names gives. -/
def cluster? : List Char → Option (Cluster Opt)
  | [] => some ⟨[], none⟩
  | c :: rest =>
      match v.short.lookup c with
      | none => none
      | some option =>
          if v.takesValue option then
            if rest.isEmpty then some ⟨[], some option⟩
            else some ⟨[⟨option, some (String.ofList rest)⟩], none⟩
          else (cluster? rest).map fun more => ⟨⟨option, none⟩ :: more.given, more.open?⟩

/-- What an option gives that has a long name, with the value behind its equals sign. -/
def long? (option : Opt) (value : Option String) : Option (Cluster Opt) :=
  match v.takesValue option, value with
  | true, none => some ⟨[], some option⟩
  | false, some _ => none
  | _, value => some ⟨[⟨option, value⟩], none⟩

/-- What an argument gives that begins with a hyphen. -/
def option? (argument : List Char) : Option (Cluster Opt) :=
  let name := argument.takeWhile (· ≠ '=')
  let value := match argument.dropWhile (· ≠ '=') with
    | [] => none
    | _ :: value => some (String.ofList value)
  match v.long.lookup (String.ofList name) with
  | some option => v.long? option value
  | none => if argument.take 2 = ['-', '-'] then none else v.cluster? (argument.drop 1)

end Vocabulary

/-- The arguments of a command. -/
structure Arguments (Opt : Type) where
  /-- The options that were given, in order. -/
  given : List (Given Opt)
  /-- The operands, in order. -/
  operands : List String

namespace Arguments

variable {Opt : Type}

/-- The argument that ends the options. -/
def endOfOptions : String := "--"

/-- Whether an argument is an option. -/
def isOption (argument : String) : Bool :=
  match argument.toList with
  | '-' :: _ :: _ => true
  | _ => false

/-- Read the arguments of a command; nothing if an option is not given as it has to be. -/
def read? (v : Vocabulary Opt) : List String → Option (Arguments Opt)
  | [] => some ⟨[], []⟩
  | argument :: rest =>
      if argument = endOfOptions then some ⟨[], rest⟩
      else if isOption argument then
        match v.option? argument.toList with
        | none => none
        | some ⟨given, none⟩ =>
            (read? v rest).map fun more => ⟨given ++ more.given, more.operands⟩
        | some ⟨given, some option⟩ =>
            match rest with
            | [] => none
            | value :: rest =>
                (read? v rest).map fun more =>
                  ⟨given ++ ⟨option, some value⟩ :: more.given, more.operands⟩
      else if v.interspersed then
        (read? v rest).map fun more => ⟨more.given, argument :: more.operands⟩
      else some ⟨[], argument :: rest⟩

/-- What stands behind the end of the options is not read. -/
@[simp] theorem read?_endOfOptions (v : Vocabulary Opt) (operands : List String) :
    read? v (endOfOptions :: operands) = some ⟨[], operands⟩ := by
  simp [read?]

variable [DecidableEq Opt]

/-- Whether an option was given. -/
def has (arguments : Arguments Opt) (option : Opt) : Bool :=
  arguments.given.any fun g => g.option = option

/-- The last value that was given for an option. -/
def lastValue? (arguments : Arguments Opt) (option : Opt) : Option String :=
  (arguments.given.reverse.find? fun g => g.option = option).bind (·.value)

end Arguments

end Calculator.CommandLine
