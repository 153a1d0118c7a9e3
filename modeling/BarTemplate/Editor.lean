import BarTemplate.Command.Sources
import BarTemplate.Command.Usage
import BarTemplate.Parse

/-!
# Diagnostics in an editor

A document of templates, one a line, is checked as a whole whenever it is opened or changed. Every line that is not
blank and does not parse has one diagnostic, on the character at which its error is. Lines and characters count from
zero.
-/

namespace BarTemplate.Editor

/-- The number that editors know an error by, among other kinds of diagnostics. -/
def errorSeverity : Nat := 1

/-- A diagnostic on the characters from one place of a document up to another: what is wrong there, how severe it is,
and who says so. -/
structure Diagnostic where
  line : Int
  character : Int
  endLine : Int
  endCharacter : Int
  message : Text
  severity : Nat
  source : Text
  deriving DecidableEq, Repr

/-- The diagnostic of an error in the line with a number, which counts from one. It marks one character. -/
def Diagnostic.ofError (number : Nat) (e : SyntaxError) : Diagnostic where
  line := (number : Int) - 1 + e.position.line - 1
  character := e.position.column - 1
  endLine := (number : Int) - 1 + e.position.line - 1
  endCharacter := e.position.column - 1 + 1
  message := e.message
  severity := errorSeverity
  source := Command.programName

/-- The diagnostics of a document, in the order of its lines. -/
def diagnose (frames : Int) (document : Text) : List Diagnostic :=
  (templateLines document).filterMap fun (number, t) =>
    match parse frames Nesting.defaultDepth t with
    | .ok _ => none
    | .error e => some (.ofError number e)

end BarTemplate.Editor
