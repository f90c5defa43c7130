import Calculator.Text.Blank
import Calculator.Text.Lines
import Calculator.Text.Quoted

/-!
# The version of the program

The version is the one under which the program is installed. Without an installation it is the first
declaration in the manifest of the project: a line that starts with the word `version`, an equals
sign and a value in quotation marks. Without a declaration it is `0.0.0`.

Blanks around the equals sign may span lines. Either mark may open the value and either may close
it; the value holds neither of them and is not empty (`Release.declaration?`). A line that begins
like a declaration and is none does not hide a later one (`Release.firstDeclaration?`).
-/

namespace Calculator.Release

/-- Whether a character is a quotation mark. -/
def isMark (c : Char) : Bool :=
  c = Text.apostrophe || c = Text.doubleQuote

/-- What follows the given beginning of a text. -/
def after? (start text : List Char) : Option (List Char) :=
  if start.isPrefixOf text then some (text.drop start.length) else none

/-- The value that a text declares at its beginning. -/
def declaration? (text : List Char) : Option (List Char) := do
  let afterWord ← after? "version".toList text
  let afterSign ← after? ['='] (afterWord.dropWhile Text.isBlank)
  match afterSign.dropWhile Text.isBlank with
  | [] => none
  | opening :: rest =>
      let value := rest.takeWhile fun c => !isMark c
      let closing := rest.dropWhile fun c => !isMark c
      if isMark opening && !value.isEmpty && !closing.isEmpty then some value else none

/-- The value that is declared at the first line start with a declaration; `atStart` says whether
the text itself begins a line. -/
def firstDeclaration? (atStart : Bool) : List Char → Option (List Char)
  | [] => none
  | c :: rest =>
      match if atStart then declaration? (c :: rest) else none with
      | some value => some value
      | none => firstDeclaration? (c = '\n') rest

/-- The version that is reported where none is known. -/
def unknown : String := "0.0.0"

/-- The version: the installed one, or else the first one that the manifest declares. -/
def version (installed manifest : Option String) : String :=
  match installed with
  | some version => version
  | none =>
      match manifest.bind fun text => firstDeclaration? true (Text.unifyLineEnds text.toList) with
      | some value => String.ofList value
      | none => unknown

/-- An installed version is reported whatever the manifest says. -/
@[simp] theorem version_installed (installed : String) (manifest : Option String) :
    version (some installed) manifest = installed := rfl

/-- The version of this release. -/
def current : String := "0.1.0"

end Calculator.Release
