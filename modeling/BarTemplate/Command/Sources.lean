import BarTemplate.Command.Options
import BarTemplate.Text.Lines
import BarTemplate.Unicode.Blank

/-!
# Sources

The templates that a run works on, each with the place that it comes from: the lines of the input that are not blank,
then the templates of the command line, which are numbered.
-/

namespace BarTemplate

/-- A template to be parsed, and where it comes from. A source without a text, which only the command line can give, has
an empty one. -/
structure Source where
  filename : Text
  line : Int
  text : Text
  textless : Bool := false
  deriving DecidableEq, Repr

/-- The text of a source as log records show it. -/
def Source.shown (s : Source) : Text :=
  if s.textless then "[]" else Quoted.encode s.text

/-- A line without anything but white space. -/
def isBlankLine (t : Text) : Bool :=
  t.all Unicode.isBlank

/-- The lines of a document that are not blank, with their numbers. -/
def templateLines (document : Text) : List (Nat × Text) :=
  ((Text.lines document).zipIdx 1).filterMap fun (t, number) => if isBlankLine t then none else some (number, t)

/-- The sources in a document. -/
def Source.ofDocument (filename document : Text) : List Source :=
  (templateLines document).map fun (number, t) => { filename, line := number, text := t }

/-- The sources that are given one by one. -/
def Source.ofTemplates (templates : List (Option Text)) : List Source :=
  (templates.zipIdx 1).map fun (t, number) =>
    { filename := "<template " ++ Text.ofNat number ++ ">", line := 1, text := t.getD [], textless := t.isNone }

namespace Command

/-- The sources in the input. The line breaks of a file are made LF when it is read. -/
def inputSources (input : Option Path) (disk : Disk) (stdin : Text) : Except ReadError (List Source) :=
  match input with
  | none => .ok []
  | some p =>
    if p = standardInput then .ok (Source.ofDocument "<stdin>" stdin)
    else
      match disk.readText p with
      | .error e => .error e
      | .ok document => .ok (Source.ofDocument p.shown document.withFeeds)

/-- All sources of a run. -/
def Options.sources (o : Options) (disk : Disk) (stdin : Text) : Except ReadError (List Source) :=
  match inputSources o.input disk stdin with
  | .error e => .error e
  | .ok sources => .ok (sources ++ Source.ofTemplates o.templates)

end Command

end BarTemplate
