import BarTemplate.Parse

/-!
# Sessions

A session reads one source production by production: a cursor stands in the source, and every step reads one production
from there and moves the cursor past what was found. A step that finds nothing leaves the cursor where it was, and one
that fails leaves it where the failure happened; the session goes on in either case.
-/

namespace BarTemplate

/-- The productions that a step of a session can read. -/
inductive Step where
  | gap
  | name
  | value
  | argument
  | arguments
  | formatter
  | placeholder
  | icon
  | text
  | group
  | token
  | alternative
  | template
  | whole
  deriving DecidableEq, Repr

/-- What a step can find. A gap is found wherever it is looked for. -/
inductive Finding where
  | gap
  | word (value : Text)
  | argument (value : Argument)
  | arguments (value : List Argument)
  | formatter (value : Formatter)
  | placeholder (value : Placeholder)
  | token (value : Token)
  | alternative (value : Alternative)
  | template (value : Template)
  deriving DecidableEq

open Production in
/-- What a step finds in a text, with room for so many levels of braces. -/
def Step.read (room : Nat) (step : Step) (s : Text) : Outcome Finding :=
  match step with
  | .gap => (Outcome.ofExcept ((Committed.skip isGap).read s)).map fun _ => .gap
  | .name => (Production.name.read s).map .word
  | .value => (Production.value.read s).map .word
  | .argument => (Production.argument.read s).map .argument
  | .arguments => (Production.arguments.read s).map .arguments
  | .formatter => (Production.formatter.read s).map .formatter
  | .placeholder => (Production.placeholder.read s).map .placeholder
  | .icon => (Production.icon.read s).map .word
  | .text => (Production.text.read s).map .word
  | .group => ((Production.group room).read s).map .template
  | .token => ((Production.token (Production.group room)).read s).map .token
  | .alternative => (Outcome.ofExcept ((Production.alternative (Production.group room)).read s)).map .alternative
  | .template => (Outcome.ofExcept ((Production.template (Production.group room)).read s)).map .template
  | .whole => (Outcome.ofExcept ((Production.whole room).read s)).map .template

/-- A source that is being read: the cap for its nesting, and how much of it lies behind the cursor. -/
structure Session where
  source : Text
  cap : Int
  cursor : Nat := 0
  deriving DecidableEq, Repr

namespace Session

/-- The source from the cursor on. -/
def rest (s : Session) : Text :=
  s.source.drop s.cursor

/-- The cursor is at the end of the source. -/
def atEnd (s : Session) : Bool :=
  s.rest.isEmpty

/-- The session with its cursor where a rest of the source begins. -/
def moveTo (s : Session) (rest : Text) : Session :=
  { s with cursor := s.source.length - rest.length }

/-- Takes a step. -/
def take (s : Session) (step : Step) : Except SyntaxError (Option Finding) × Session :=
  match step.read s.cap.toNat s.rest with
  | .absent => (.ok none, s)
  | .found a r => (.ok (some a), s.moveTo r)
  | .failed f => (.error (.ofFailure s.source s.cap f), s.moveTo f.left)

/-- Takes steps in order, and tells what each gave and where it left the cursor. -/
def takeAll (s : Session) : List Step → List (Except SyntaxError (Option Finding) × Session)
  | [] => []
  | step :: steps =>
    let result := s.take step
    result :: takeAll result.2 steps

end Session

end BarTemplate
