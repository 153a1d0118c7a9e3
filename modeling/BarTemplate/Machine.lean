import BarTemplate.Session

/-!
# The parsing machine

The productions as methods of one parser, which reads its source in place. Its state is a cursor, which the methods
move, and the number of templates in braces that are open, which says whether one more may be opened. A method that
finds nothing puts the cursor back where it has moved it for a look ahead; a method that raises an error leaves the
cursor where it is at that moment, and everyone whose template it has opened counts down as the error passes. A loop
goes on for as long as its body finds something. That it ends is not part of what is written here: a method that does
not end, or that takes a character where there is none, has no result.
-/

namespace BarTemplate

/-- What a parser is made with and no method changes: its source, and how many templates in braces may be open at once.
-/
structure Machine where
  source : Text
  cap : Int
  deriving DecidableEq, Repr

namespace Machine

/-- The machine for a source where so many templates in braces are asked for and the stack has so many frames. -/
def ofSource (frames requested : Int) (source : Text) : Machine where
  source := source
  cap := Nesting.clamp frames requested

open Production (quote iconMarker)

/-- What the methods change: how much of the source lies behind the cursor, and how many templates in braces are open.
-/
structure State where
  cursor : Nat := 0
  level : Int := 0
  deriving DecidableEq, Repr

/-- A method changes the state and gives a value or raises an error, if it has a result at all. -/
abbrev Method (α : Type) := ExceptT SyntaxError (StateT State Option) α

variable {α β : Type}

/-! ## Ways to build methods -/

/-- Runs a method and hands on what comes of it, also an error. -/
abbrev observe (m : Method α) : Method (Except SyntaxError α) :=
  (Except.ok <$> (m : StateT State Option (Except SyntaxError α)) : StateT State Option _)

/-- Runs a second method if a first one finds nothing. -/
abbrev orElse (m m' : Method (Option α)) : Method (Option α) := do
  match ← m with
  | some a => return some a
  | none => m'

/-- Goes on with what a method has found, if it finds something. -/
abbrev andThen (m : Method (Option α)) (k : α → Method β) : Method (Option β) := do
  match ← m with
  | some a => return some (← k a)
  | none => return none

/-- One round of a loop: if the body finds something, the loop goes on behind it. -/
abbrev round (body : Method (Option α)) (loop : Method (List α)) : Method (List α) := do
  match ← body with
  | some a => return a :: (← loop)
  | none => return []

/-- Runs a method with one more template open. The count goes back also when the method raises an error. -/
abbrev deeper (m : Method α) : Method α := do
  modify fun s => { s with level := s.level + 1 }
  let result ← observe m
  modify fun s => { s with level := s.level - 1 }
  liftExcept result

/-! ## The cursor -/

/-- The source from the cursor on. -/
def rest (self : Machine) (s : State) : Text :=
  self.source.drop s.cursor

/-- The character at the cursor, if there is one. -/
def peek (self : Machine) : Method (Option Char) := do
  return self.source[(← get).cursor]?

/-- Whether a character stands at the cursor. -/
def sees (self : Machine) (c : Char) : Method Bool := do
  return (← self.peek) == some c

/-- Whether the cursor is at the end. -/
def atEnd (self : Machine) : Method Bool := do
  return decide (self.source.length ≤ (← get).cursor)

/-- Puts the cursor at an offset. -/
def moveTo (offset : Nat) : Method Unit :=
  modify fun s => { s with cursor := offset }

/-- Takes the character at the cursor. -/
def advance (self : Machine) : Method Char := do
  let c ← (self.source[(← get).cursor]? : Option Char)
  modify fun s => { s with cursor := s.cursor + 1 }
  return c

/-- Takes the characters from the cursor on that have a property. -/
def takeWhile (self : Machine) (p : Char → Bool) : Method Text := do
  match ← self.peek with
  | none => return []
  | some c =>
    if p c then
      let _ ← self.advance
      return c :: (← self |>.takeWhile p)
    else return []
partial_fixpoint

/-- Raises the error that has a cause at an offset. -/
def raiseAt (self : Machine) (offset : Nat) (cause : Cause) : Method α :=
  throw {
    problem := SyntaxError.problemOf self.cap ⟨cause, self.source.drop offset⟩
    position := .ofOffset self.source offset
    source := self.source }

/-- Raises the error that has a cause at the cursor. -/
def raise (self : Machine) (cause : Cause) : Method α := do
  self.raiseAt (← get).cursor cause

/-- Takes a character that has to be there. -/
def expect (self : Machine) (c : Char) : Method Unit := do
  if ← self.sees c then
    let _ ← self.advance
  else self.raise (.expected (.char c))

/-- Goes on with a method after a character, if that stands at the cursor. -/
abbrev lead (self : Machine) (c : Char) (m : Method α) : Method (Option α) := do
  if ← self.sees c then
    let _ ← self.advance
    return some (← m)
  else return none

/-- Runs a method that has to find something. -/
def require (self : Machine) (m : Method (Option α)) (what : Expected) : Method α := do
  match ← m with
  | some a => return a
  | none => self.raise (.expected what)

/-! ## Lexemes -/

/-- Takes white space. -/
def gap (self : Machine) : Method Unit := do
  let _ ← self.takeWhile isGap
  return

/-- Takes a word over a class of characters. -/
def word (self : Machine) (p : Char → Bool) : Method (Option Text) := do
  match ← self.peek with
  | none => return none
  | some c =>
    if p c then return some (← self.takeWhile fun d => p d || Unicode.isMark d)
    else return none

/-- Takes a name. -/
def name (self : Machine) : Method (Option Text) :=
  self.word isNameChar

/-- Takes what stands between two quotation marks, after the first of them. -/
def quoted (self : Machine) : Method Text := do
  let v ← self.takeWhile (· ≠ quote)
  self.expect quote
  return v

/-- Takes the value of an argument. -/
def value (self : Machine) : Method (Option Text) :=
  orElse (self.lead quote self.quoted) (self.word isValueChar)

/-- Takes the escape character and the one that it makes literal. -/
def escape (self : Machine) : Method Char := do
  let place := (← get).cursor
  let _ ← self.advance
  if ← self.atEnd then self.raiseAt place .danglingEscape
  else self.advance

/-- Takes the pieces of literal text, each with its escapes resolved. -/
def pieces (self : Machine) : Method (List Text) := do
  match ← self.peek with
  | none => return []
  | some c =>
    if c = escapeChar then
      let d ← self.escape
      return [d] :: (← self |>.pieces)
    else if isPlain c then
      let run ← self.takeWhile isPlain
      return run :: (← self |>.pieces)
    else return []
partial_fixpoint

/-- Takes literal text. -/
def text (self : Machine) : Method (Option Text) := do
  match (← self.pieces).flatten with
  | [] => return none
  | c :: v => return some (c :: v)

/-! ## Placeholders and icons -/

/-- Takes the rest of an argument after its key. -/
def argumentOf (self : Machine) (key : Text) : Method Argument := do
  return { key, value := ← self.lead ':' (self.require self.value (.char quote)) }

/-- Takes an argument of a formatter. -/
def argument (self : Machine) : Method (Option Argument) :=
  andThen self.name self.argumentOf

/-- Takes a comma and an argument. The cursor goes back if there are none. -/
def furtherArgument (self : Machine) : Method (Option Argument) := do
  let saved := (← get).cursor
  self.gap
  if ← self.sees ',' then
    let _ ← self.advance
    self.gap
    match ← self.argument with
    | some a => return some a
    | none =>
      moveTo saved
      return none
  else
    moveTo saved
    return none

/-- Takes all further arguments. -/
def furtherArguments (self : Machine) : Method (List Argument) :=
  round self.furtherArgument (self |>.furtherArguments)
partial_fixpoint

/-- Takes arguments up to the closing parenthesis, after the opening one. -/
def argumentList (self : Machine) : Method (List Argument) := do
  self.gap
  let as ← round self.argument self.furtherArguments
  self.gap
  self.expect ')'
  return as

/-- Takes arguments in parentheses. -/
def arguments (self : Machine) : Method (Option (List Argument)) :=
  self.lead '(' self.argumentList

/-- Takes a formatter. -/
def formatter (self : Machine) : Method (Option Formatter) :=
  self.lead '.' do
    let n ← self.require self.name .formatterName
    let as ← self.arguments
    return { name := n, arguments := as.getD [] }

/-- Takes a placeholder. -/
def placeholder (self : Machine) : Method (Option Placeholder) :=
  self.lead '$' do
    let n ← self.require self.name .placeholderName
    return { name := n, formatter := ← self.formatter }

/-- Takes the marker of icons. -/
def marker (self : Machine) : Method Unit := do
  let place := (← get).cursor
  if iconMarker <+: self.source.drop place then moveTo (place + iconMarker.length)
  else self.raise (.expected .iconMarker)

/-- Takes an icon. -/
def icon (self : Machine) : Method (Option Text) :=
  self.lead '^' do
    self.marker
    self.require self.name .iconName

/-! ## Templates -/

/-- Raises an error at an opening brace if as many templates are open as the cap allows. -/
def checkLevel (self : Machine) : Method Unit := do
  if ← self.sees '{' then
    if self.cap ≤ (← get).level then self.raise .tooDeep

mutual

/-- Takes a template in braces. -/
def group (self : Machine) : Method (Option Template) := do
  self.checkLevel
  self.lead '{' do
    let t ← deeper (self |>.template)
    self.expect '}'
    return t
partial_fixpoint

/-- Takes a token. -/
def token (self : Machine) : Method (Option Token) :=
  orElse (do return (← self.text).map .text) <|
  orElse (do return (← self.placeholder).map .placeholder) <|
  orElse (do return (← self.icon).map .icon) <|
  do return (← self |>.group).map .group
partial_fixpoint

/-- Takes the tokens of an alternative. -/
def alternative (self : Machine) : Method Alternative :=
  round (self |>.token) (self |>.alternative)
partial_fixpoint

/-- Takes a template. -/
def template (self : Machine) : Method Template := do
  let first ← self |>.alternative
  return first :: (← self |>.furtherAlternatives)
partial_fixpoint

/-- Takes all further alternatives, each after a bar. -/
def furtherAlternatives (self : Machine) : Method Template :=
  round (self.lead '|' (self |>.alternative)) (self |>.furtherAlternatives)
partial_fixpoint

end

/-- Takes a template that ends where the source ends. -/
def whole (self : Machine) : Method Template := do
  let t ← self.template
  if ← self.atEnd then return t
  else self.raise .trailing

/-! ## Calls -/

/-- The method for a step. -/
def method (self : Machine) : Step → Method (Option Finding)
  | .gap => do self.gap; return some .gap
  | .name => do return (← self.name).map .word
  | .value => do return (← self.value).map .word
  | .argument => do return (← self.argument).map .argument
  | .arguments => do return (← self.arguments).map .arguments
  | .formatter => do return (← self.formatter).map .formatter
  | .placeholder => do return (← self.placeholder).map .placeholder
  | .icon => do return (← self.icon).map .word
  | .text => do return (← self.text).map .word
  | .group => do return (← self.group).map .template
  | .token => do return (← self.token).map .token
  | .alternative => do return some (.alternative (← self.alternative))
  | .template => do return some (.template (← self.template))
  | .whole => do return some (.template (← self.whole))

/-- A call of a method: the state before it, what it gave or raised, and the state after it. -/
structure Call where
  step : Step
  before : State
  outcome : Except SyntaxError (Option Finding)
  after : State

/-- Calls the method for a step. -/
def call (self : Machine) (step : Step) (s : State) : Option Call := do
  let (outcome, after) ← (self.method step).run.run s
  return { step, before := s, outcome, after }

/-- Calls one method after the other on the same machine, also after calls that raise an error. -/
def callAll (self : Machine) : List Step → State → Option (List Call)
  | [], _ => some []
  | step :: steps, s => do
    let c ← self.call step s
    return c :: (← self.callAll steps c.after)

end Machine

end BarTemplate
