import BarTemplate.Position
import BarTemplate.Reader.Basic
import BarTemplate.Text.Lines

/-!
# Syntax errors

What is wrong with a source, where, and in which words. An error is reported in five lines: the message, the place, and
the source line with a caret under the place, between the bars of a gutter that is as wide as the line number needs.
-/

namespace BarTemplate

/-- What is wrong with a source. -/
inductive Problem where
  | general (message : Text)
  | expectedText (what : Text) (actual : Option Text)
  | trailingText (what : Text)
  | tooDeep (cap : Int)
  deriving DecidableEq, Repr

/-- A problem in words. A cap is written out however many digits it has; a system that writes no more than 4300 digits
fails there. -/
def Problem.message : Problem → Text
  | .general message => message
  | .expectedText what none => "expected '" ++ what ++ "', got EOF"
  | .expectedText what (some actual) => "expected '" ++ what ++ "', got '" ++ actual ++ "'"
  | .trailingText what => "unexpected '" ++ what ++ "'"
  | .tooDeep cap => "template nesting exceeds maximum depth of " ++ Text.ofInt cap

/-- An error in a source, at a position. -/
structure SyntaxError where
  problem : Problem
  position : Position
  source : Text
  deriving DecidableEq, Repr

namespace SyntaxError

/-- The number of code points that a message quotes from the place of the error on. -/
def excerptLength : Nat := 16

/-- The part of a template that is expected, in words. -/
def describe : Expected → Text
  | .char c => ['\'', c, '\'']
  | .placeholderName => "placeholder name after '$'"
  | .formatterName => "formatter name after '.'"
  | .iconMarker => "'icon_' after '^'"
  | .iconName => "icon name"

/-- The source from the place of the error on, in words. -/
def nearby (rest : Text) : Text :=
  match rest.take excerptLength with
  | [] => "at end of input"
  | excerpt => "near '" ++ excerpt ++ "'"

/-- The problem behind a failure under a nesting cap. -/
def problemOf (cap : Int) (f : Failure) : Problem :=
  match f.cause with
  | .expected (.char c) => .expectedText [c] (f.rest.head?.map fun d => [d])
  | .expected what => .general ("expected " ++ describe what ++ " " ++ nearby f.rest)
  | .danglingEscape => .general "dangling '\\' at end of input"
  | .tooDeep => .tooDeep cap
  | .trailing => .trailingText (f.rest.take 1)

/-- The error that a failure is, in a source and under a nesting cap. -/
def ofFailure (source : Text) (cap : Int) (f : Failure) : SyntaxError where
  problem := problemOf cap f
  position := .ofOffset source (source.length - f.rest.length)
  source := source

/-- The error in words, without its place. -/
def message (e : SyntaxError) : Text :=
  e.problem.message

/-- The name that a report gives to a source without a file. -/
def defaultFilename : Text := "<template>"

/-- The line of the source that the error is on, without carriage returns at its end. It is empty if there is no such
line. -/
def sourceLine (e : SyntaxError) : Text :=
  if e.position.line < 1 then []
  else ((Text.feedLines e.source)[(e.position.line - 1).toNat]?.getD []).reverse.dropWhile (· = '\r') |>.reverse

/-- The report of an error in a file. The first line of the source has the given number in the file. A number is written
out however many digits it has; a system that writes no more than 4300 digits fails there. -/
def report (e : SyntaxError) (filename : Text := defaultFilename) (firstLine : Int := 1) : Text :=
  let number := Text.ofInt (e.position.line + firstLine - 1)
  let column := e.position.column
  let gutter := Text.spaces (number.length + 1) ++ "|"
  Text.joinWith ['\n'] [
    "error: " ++ e.message,
    Text.spaces (number.length + 1) ++ "--> " ++ filename ++ ":" ++ number ++ ":" ++ Text.ofInt column,
    gutter,
    number ++ " | " ++ e.sourceLine,
    gutter ++ " " ++ Text.spaces (column - 1).toNat ++ "^"]

end SyntaxError

end BarTemplate
