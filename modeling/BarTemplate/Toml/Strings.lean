import BarTemplate.Toml.Scan

/-!
# Strings of a document

Basic strings stand between quotation marks and have escapes; literal strings stand between apostrophes and have none.
Both come in a form for several lines, between three marks: a line feed right after the opening marks is dropped, and up
to two more marks may stand before the closing ones. In a basic string of several lines, a backslash at the end of a
line drops the white space and line feeds after it.
-/

namespace BarTemplate.Toml

/-- A hexadecimal digit of ASCII. -/
def isHexDigit (c : Char) : Bool :=
  c.isDigit || ('a' ≤ c && c ≤ 'f') || ('A' ≤ c && c ≤ 'F')

/-- The value of a hexadecimal digit. -/
def hexDigitValue (c : Char) : Nat :=
  if c.isDigit then c.toNat - '0'.toNat
  else if 'a' ≤ c then c.toNat - 'a'.toNat + 10
  else c.toNat - 'A'.toNat + 10

/-- The number that digits of a base stand for. -/
def baseValue (base : Nat) (digits : Text) : Nat :=
  digits.foldl (fun n c => base * n + hexDigitValue c) 0

/-- The code point of a hexadecimal escape with so many digits. -/
def hexEscape (count : Nat) : Scan Text := do
  let s ← get
  let digits := s.take count
  let n := baseValue 16 digits
  if digits.length = count ∧ digits.all isHexDigit ∧ n.isValidChar then
    set (s.drop count)
    return [Char.ofNat n]
  else Scan.invalid

/-- What a letter after a backslash stands for. -/
def shortEscape? : Char → Option Char
  | 'b' => some '\x08'
  | 't' => some '\t'
  | 'n' => some '\n'
  | 'f' => some '\x0c'
  | 'r' => some '\r'
  | '"' => some '"'
  | '\\' => some '\\'
  | _ => none

/-- What an escape stands for, from after its backslash on. -/
def escape (severalLines : Bool) : Scan Text := do
  let s ← get
  match s with
  | [] => Scan.invalid
  | c :: rest =>
    if severalLines && isSpaceOrFeed c then
      match s.dropWhile isSpace with
      | [] => set ([] : Text)
      | '\n' :: more => set (more.dropWhile isSpaceOrFeed)
      | _ => Scan.invalid
      return []
    else
      set rest
      if c = 'u' then hexEscape 4
      else if c = 'U' then hexEscape 8
      else
        match shortEscape? c with
        | some d => return [d]
        | none => Scan.invalid

/-- A basic string from after its opening marks to after its closing marks. Every round takes at least one character. -/
def basicBody (severalLines : Bool) : Nat → Scan Text
  | 0 => Scan.invalid
  | rounds + 1 => do
    let closing : Text := if severalLines then "\"\"\"" else "\""
    if ← Scan.accept closing then return []
    match ← get with
    | [] => Scan.invalid
    | c :: rest =>
      set rest
      let piece ←
        if c = '\\' then escape severalLines
        else if (if severalLines then isControlOnLine c else isControl c) then Scan.invalid
        else pure [c]
      return piece ++ (← basicBody severalLines rounds)

/-- A basic string from after its opening marks on. -/
def basic (severalLines : Bool) : Scan Text := do
  basicBody severalLines ((← get).length + 1)

/-- A literal string on one line, from after its opening mark on. -/
def literal : Scan Text := do
  let t ← Scan.takeWhile (· ≠ '\'')
  if t.any isControl then Scan.invalid
  Scan.require ['\'']
  return t

/-- The text before the first place where three apostrophes follow one another, and the text after them. -/
def beforeApostrophes? : Text → Option (Text × Text)
  | [] => none
  | c :: rest =>
    match c, rest with
    | '\'', '\'' :: '\'' :: after => some ([], after)
    | _, _ => (beforeApostrophes? rest).map fun (before, after) => (c :: before, after)

/-- The marks that still follow the closing three, at most two of them. -/
def extraMarks (mark : Char) : Scan Text := do
  if ← Scan.accept [mark] then
    if ← Scan.accept [mark] then return [mark, mark] else return [mark]
  else return []

/-- A string of several lines, from after its opening marks on. -/
def severalLines (mark : Char) : Scan Text := do
  discard (Scan.accept ['\n'])
  let t ←
    if mark = '"' then basic true
    else
      match ← Scan.optional beforeApostrophes? with
      | none => Scan.invalid
      | some t => if t.any isControlOnLine then Scan.invalid else pure t
  return t ++ (← extraMarks mark)

/-- A string that begins with one of the two marks; any form of it may stand as a value. -/
def string (mark : Char) : Scan Text := do
  if ← Scan.accept [mark, mark, mark] then severalLines mark
  else
    Scan.require [mark]
    if mark = '"' then basic false else literal

/-- A string on one line, which may stand as a key. -/
def lineString (mark : Char) : Scan Text := do
  Scan.require [mark]
  if mark = '"' then basic false else literal

end BarTemplate.Toml
