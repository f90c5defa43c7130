import Calculator.Decimal.Whole
import Calculator.Document.Violation
import Calculator.Log
import Calculator.Toml.File

/-!
# Settings

The command line has four settings. They come from the table `reckon` of a settings file; two of
them can be overridden by the environment; a setting that is given nowhere has its default.

* What counts is the **effective value** of a setting: the value from the environment if there is
  one that is not empty, or else the value from the table (`effective`). A value that is overridden
  is not looked at.
* Each setting has a **coercion** of its own: `promptOf`, `precisionOf`, `trailingOf` and `levelOf`.
  `Settings.ofTable` applies the four and lists the violations of all that fail, in this order.
* The entry `reckon` acts as a table if it is one, and also if it is a sequence of pairs, each a
  name with its value (`asTable`).
-/

namespace Calculator

open Document

/-- The settings of the command line. -/
structure Settings where
  /-- What is written before a line is read. -/
  prompt : String
  /-- How many decimal places a result is displayed with; none for the short form. -/
  precision : Option Nat
  /-- Whether tokens may follow a complete expression. -/
  allowTrailing : Bool
  /-- Which log entries are let through. -/
  logLevel : LogLevel
deriving DecidableEq

namespace Settings

/-- The settings that hold where nothing is given. -/
def default : Settings :=
  ⟨"calc> ", none, false, .warning⟩

/-! ## Coercions -/

/-- The prompt: a text. -/
def promptOf : Value → Except Rule String
  | .text s => .ok s
  | _ => .error .text

/-- A whole number as a number of decimal places. -/
def placesOf (n : Int) : Except Rule (Option Nat) :=
  if n < 0 then .error .atLeast else .ok (some n.toNat)

/-- The least whole number that a machine word does not hold. -/
def wordLimit : Nat := Nat.pow 2 63

/-- A binary64 number as a whole number. -/
def wholeOf : Binary64 → Except Rule Int
  | .nan | .infinity _ => .error .finite
  | .finite negative m =>
      if m.units % Magnitude.unitsOfOne ≠ 0 then .error .noFraction
      else
        let whole := m.units / Magnitude.unitsOfOne
        if wordLimit ≤ whole then .error .wholeSize
        else .ok (if negative then -(whole : Int) else whole)

/-- How many characters a whole number may be written with, padding aside. -/
def longestWhole : Nat := 4300

/-- A padded text as a whole number, with white space around it all. A number that is too long is
reported as such, also where something behind it is not right. -/
def wholeOfText (text : List Char) : Except Rule Int :=
  if Decimal.isLongerThan longestWhole text then .error .wholeSize
  else
    match Decimal.unpadded? (Text.trim Text.isWhiteSpace text) with
    | none => .error .wholeText
    | some bare =>
        if Decimal.isLongerThan longestWhole bare then .error .wholeSize
        else
          match Decimal.plain? bare with
          | some n => .ok n
          | none => .error .wholeText

/-- The precision: a whole number that is not negative, or nothing. -/
def precisionOf : Value → Except Rule (Option Nat)
  | .null => .ok none
  | .integer n => placesOf n
  | .boolean b => .ok (some (if b then 1 else 0))
  | .float x => (wholeOf x).bind placesOf
  | .text s => (wholeOfText s.toList).bind placesOf
  | _ => .error .whole

/-- The words for a truth value. -/
def truthWords : List (String × Bool) :=
  [("0", false), ("off", false), ("f", false), ("false", false), ("n", false), ("no", false),
    ("1", true), ("on", true), ("t", true), ("true", true), ("y", true), ("yes", true)]

/-- A whole number that fits into a machine word as a truth value. -/
def truthOfWhole (n : Int) : Except Rule Bool :=
  if n = 0 then .ok false else if n = 1 then .ok true else .error .truthText

/-- Whether trailing tokens are allowed: a truth value, a number that is zero or one, or a word in
letters of either case. Numbers that are not whole, or that no machine word holds, stand for no
truth value at all. -/
def trailingOf : Value → Except Rule Bool
  | .boolean b => .ok b
  | .integer n =>
      if -(wordLimit : Int) ≤ n ∧ n < wordLimit then truthOfWhole n else .error .truth
  | .float x =>
      match wholeOf x with
      | .ok n => truthOfWhole n
      | .error _ => .error .truth
  | .text s =>
      match truthWords.lookup (String.ofList (s.toList.map Char.toLower)) with
      | some b => .ok b
      | none => .error .truthText
  | _ => .error .truth

/-- A character in capital letters, as far as these are letters from A to Z. -/
def capitals (c : Char) : List Char :=
  match c.toNat with
  | 0x131 => ['I']
  | 0x17f => ['S']
  | 0xdf => ['S', 'S']
  | 0xfb00 => ['F', 'F']
  | 0xfb01 => ['F', 'I']
  | 0xfb02 => ['F', 'L']
  | 0xfb03 => ['F', 'F', 'I']
  | 0xfb04 => ['F', 'F', 'L']
  | 0xfb05 => ['S', 'T']
  | 0xfb06 => ['S', 'T']
  | _ => [c.toUpper]

/-- The level of a name, in letters of either case. -/
def levelOfName (given : String) : Except Rule LogLevel :=
  match LogLevel.ofName? (String.ofList (given.toList.flatMap capitals)) with
  | some level => .ok level
  | none => .error (.logLevel given)

/-- The log level: the name of one. -/
def levelOf : Value → Except Rule LogLevel
  | .text s => levelOfName s
  | _ => .error .text

/-! ## Settings from a table -/

/-- The setting of a name: the default where the table has none. -/
def setting {α : Type} (entries : Table) (name : String) (coerce : Value → Except Rule α)
    (default : α) : Except Violation α :=
  match Table.get? entries name with
  | none => .ok default
  | some value => (coerce value).mapError fun rule => ⟨[name], rule⟩

/-- The violation of a setting, if it has one. -/
def violation {α : Type} : Except Violation α → List Violation
  | .ok _ => []
  | .error found => [found]

/-- The settings of a table, or the violations of all settings that are not acceptable. -/
def ofTable (entries : Table) : Except (List Violation) Settings :=
  let prompt := setting entries "prompt" promptOf default.prompt
  let precision := setting entries "precision" precisionOf default.precision
  let trailing := setting entries "allow_trailing" trailingOf default.allowTrailing
  let level := setting entries "log_level" levelOf default.logLevel
  match prompt, precision, trailing, level with
  | .ok prompt, .ok precision, .ok trailing, .ok level => .ok ⟨prompt, precision, trailing, level⟩
  | _, _, _, _ =>
      .error (violation prompt ++ violation precision ++ violation trailing ++ violation level)

/-! ## Sources of settings -/

/-- Why an entry does not act as a table. -/
inductive Misfit
  /-- Something is of the wrong type: it is no sequence, or a name in it is no text. -/
  | type
  /-- Something is of the wrong length: a pair has two parts. -/
  | value
deriving DecidableEq

/-- Whether a value can be a name at all, as a first part of a pair. -/
def isSimple : Value → Bool
  | .array _ | .table _ => false
  | _ => true

/-- The two parts of a pair. -/
def pairOf : Value → Except Misfit (Value × Value)
  | .text s =>
      match s.toList with
      | [name, value] => .ok (.text (String.singleton name), .text (String.singleton value))
      | _ => .error .value
  | .array [name, value] => if isSimple name then .ok (name, value) else .error .type
  | .array _ => .error .value
  | .table [(name, _), (value, _)] => .ok (.text name, .text value)
  | .table _ => .error .value
  | _ => .error .type

/-- Pairs as a table; every name has to be a text. -/
def tableOfPairs (pairs : List (Value × Value)) : Except Misfit Table :=
  pairs.foldlM (fun entries pair =>
    match pair.1 with
    | .text name => .ok (Table.put entries name pair.2)
    | _ => .error .type) []

/-- A value as a table. A text is a sequence of its characters, none of which is a pair. -/
def asTable : Value → Except Misfit Table
  | .table entries => .ok entries
  | .array items => (items.mapM pairOf).bind tableOfPairs
  | .text s => if s.isEmpty then .ok [] else .error .value
  | _ => .error .type

/-- The names of the environment that override a setting, with the names of these. -/
def overrides : List (String × String) :=
  [("RECKON_LOG_LEVEL", "log_level"), ("RECKON_PROMPT", "prompt")]

/-- The entries with those values that the environment overrides. An empty value overrides nothing.
-/
def effective (environment : String → Option String) (entries : Table) : Table :=
  overrides.foldl (fun entries override =>
    match environment override.1 with
    | none => entries
    | some value =>
        if value.isEmpty then entries else Table.put entries override.2 (.text value)) entries

/-- Why there are no settings. -/
inductive Fault
  /-- The file has no value. -/
  | file (defect : Toml.Defect)
  /-- The entry for the settings does not act as a table. -/
  | misfit (reason : Misfit)
  /-- Some settings are not acceptable. -/
  | violations (found : List Violation)

/-- The settings of a document. -/
def ofDocument (environment : String → Option String) (document : Table) :
    Except Fault Settings := do
  let entries ←
    match Table.get? document "reckon" with
    | none => .ok []
    | some entry => (asTable entry).mapError Fault.misfit
  (ofTable (effective environment entries)).mapError Fault.violations

/-- The settings of a file, if there is one, with room for so many calls inside each other that read a
value of it. -/
def load (room : Nat) (environment : String → Option String) (file : Option String) :
    Except Fault Settings :=
  match file with
  | none => ofDocument environment []
  | some text =>
      match Toml.parse room text with
      | .error defect => .error (.file defect)
      | .ok document => ofDocument environment document

end Settings

end Calculator
