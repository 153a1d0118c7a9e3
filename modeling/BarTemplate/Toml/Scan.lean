import BarTemplate.Text.Basic

/-!
# Scanning a document

A document is scanned from front to back. A scan either gives a value and the text that remains, or ends the reading of
the whole document.
-/

namespace BarTemplate.Toml

/-- Why a document cannot be read: it is not valid, or it holds a decimal integer with more digits than are converted.
-/
inductive Fault where
  | invalid
  | longInteger (digits : Nat)
  deriving DecidableEq, Repr

/-- A scan of the remaining text. -/
abbrev Scan := StateT Text (Except Fault)

namespace Scan

variable {α : Type}

/-- The document is not valid. -/
def invalid : Scan α :=
  throw .invalid

/-- The next character, which is not taken. -/
def peek? : Scan (Option Char) :=
  return (← get).head?

/-- Takes the characters with a property at the front. -/
def takeWhile (p : Char → Bool) : Scan Text := do
  let s ← get
  set (s.dropWhile p)
  return s.takeWhile p

/-- Drops the characters with a property at the front. -/
def skip (p : Char → Bool) : Scan Unit :=
  modify (·.dropWhile p)

/-- Takes a given text if it is at the front, and tells whether it was. -/
def accept (t : Text) : Scan Bool := do
  let s ← get
  if t <+: s then
    set (s.drop t.length)
    return true
  else return false

/-- Takes a given text, which has to be at the front. -/
def require (t : Text) : Scan Unit := do
  unless ← accept t do invalid

/-- Takes what a function finds at the front, if it finds anything. -/
def optional (f : Text → Option (α × Text)) : Scan (Option α) := do
  match f (← get) with
  | none => return none
  | some (a, r) =>
    set r
    return some a

end Scan

/-- White space within a line. -/
def isSpace (c : Char) : Bool :=
  c == ' ' || c == '\t'

/-- White space within a line, and line feeds. -/
def isSpaceOrFeed (c : Char) : Bool :=
  isSpace c || c == '\n'

/-- A control character of ASCII other than the tab. -/
def isControl (c : Char) : Bool :=
  (c.toNat < 0x20 && c != '\t') || c.toNat = 0x7F

/-- A control character that may not stand in text of several lines. -/
def isControlOnLine (c : Char) : Bool :=
  isControl c && c != '\n'

/-- Skips a comment, which ends before the line feed. -/
def comment : Scan Unit := do
  if ← Scan.accept ['#'] then
    if (← Scan.takeWhile (· ≠ '\n')).any isControl then Scan.invalid

end BarTemplate.Toml
