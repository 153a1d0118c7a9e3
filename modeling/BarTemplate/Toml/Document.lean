import BarTemplate.Toml.Literals

/-!
# Documents

A document is a sequence of statements, one a line: entries `key = value`, headers `[key]` that open a table, and
headers `[[key]]` that add a table to a list. A table is opened by one header at most, and not at all if the dotted key
of an entry has added it under an earlier header. Tables and lists that are written as values cannot be changed later.
-/

namespace BarTemplate.Toml

/-- A dotted key: the keys of the tables on the way, and the last key. -/
structure Key where
  path : List Text
  last : Text
  deriving DecidableEq, Repr

/-- All keys of a dotted key. -/
def Key.full (k : Key) : List Text :=
  k.path ++ [k.last]

/-- A character of a key without quotation marks. -/
def isKeyChar (c : Char) : Bool :=
  c.isAlphanum || c == '-' || c == '_'

/-- One part of a dotted key. -/
def keyPart : Scan Text := do
  match ← Scan.peek? with
  | none => Scan.invalid
  | some c =>
    if isKeyChar c then Scan.takeWhile isKeyChar
    else if c = '\'' ∨ c = '"' then lineString c
    else Scan.invalid

/-- The parts of a dotted key after the first. Every round takes at least the point. -/
def moreKeyParts : Nat → Scan (List Text)
  | 0 => Scan.invalid
  | rounds + 1 => do
    Scan.skip isSpace
    if ← Scan.accept ['.'] then
      Scan.skip isSpace
      let part ← keyPart
      return part :: (← moreKeyParts rounds)
    else return []

/-- A dotted key and the white space after it. -/
def key : Scan Key := do
  let first ← keyPart
  let more ← moreKeyParts ((← get).length + 1)
  return ⟨(first :: more).dropLast, (first :: more).getLast (List.cons_ne_nil _ _)⟩

/-- Skips white space, line feeds and comments. Every round but the last takes something. -/
def skipLines : Nat → Scan Unit
  | 0 => pure ()
  | rounds + 1 => do
    let before := (← get).length
    Scan.skip isSpaceOrFeed
    comment
    if (← get).length = before then pure () else skipLines rounds

/-- Skips all white space, line feeds and comments. -/
def skipAllLines : Scan Unit := do
  skipLines ((← get).length + 1)

/-- A path begins with another. -/
def startsWith (path other : List Text) : Bool :=
  other.isPrefixOf path

/-- A value that cannot be changed later. -/
def isClosed : Setting → Bool
  | .list _ | .table _ => true
  | _ => false

/-- A value that is neither a string, nor a list, nor a table. -/
def scalar : Scan Setting := do
  if ← Scan.accept "true" then return .flag true
  if ← Scan.accept "false" then return .flag false
  match ← Scan.optional moment? with
  | some v => v
  | none =>
    match ← Scan.optional time? with
    | some t => return .time t
    | none =>
      match ← Scan.optional number? with
      | some v => v
      | none =>
        match ← Scan.optional namedNumber? with
        | some v => return v
        | none => Scan.invalid

mutual

/-- A value. Values within it are read with less fuel, and every value takes at least one character. -/
def value : Nat → Scan Setting
  | 0 => Scan.invalid
  | fuel + 1 => do
    match ← Scan.peek? with
    | none => Scan.invalid
    | some c =>
      if c = '"' ∨ c = '\'' then return .text (← string c)
      else if c = '[' then
        Scan.require ['[']
        skipAllLines
        return .list (← items fuel)
      else if c = '\x7b' then
        Scan.require ['\x7b']
        Scan.skip isSpace
        if ← Scan.accept ['\x7d'] then return .table []
        return .table (← members fuel [] [])
      else scalar

/-- The items of a list from before an item, or before the closing bracket, to after it. -/
def items : Nat → Scan (List Setting)
  | 0 => Scan.invalid
  | fuel + 1 => do
    if ← Scan.accept [']'] then return []
    let v ← value fuel
    skipAllLines
    if ← Scan.accept [']'] then return [v]
    Scan.require [',']
    skipAllLines
    return v :: (← items fuel)

/-- The entries of a table that is written as a value, from before an entry to after the closing brace: the entries so
far and the paths under which nothing can be added are given. -/
def members : Nat → Table → List (List Text) → Scan Table
  | 0, _, _ => Scan.invalid
  | fuel + 1, t, closed => do
    let k ← key
    Scan.require ['=']
    Scan.skip isSpace
    let v ← value fuel
    if closed.any (startsWith k.full) then Scan.invalid
    match Table.changeAt false (Table.add k.last v) k.path t with
    | none => Scan.invalid
    | some t =>
      Scan.skip isSpace
      if ← Scan.accept ['\x7d'] then return t
      Scan.require [',']
      Scan.skip isSpace
      members fuel t (if isClosed v then k.full :: closed else closed)

end

/-- What has been read of a document: the table as it is, the path that the last header opened, and the marks on paths.
An `opened` path cannot be opened by a header or extended by a dotted key; a `pending` one becomes so at the next
header; under a `closed` one nothing can be added. -/
structure Progress where
  table : Table := []
  header : List Text := []
  opened : List (List Text) := []
  pending : List (List Text) := []
  closed : List (List Text) := []

/-- Nothing can be added under a path. -/
def Progress.isClosed (p : Progress) (path : List Text) : Bool :=
  p.closed.any (startsWith path)

/-- A header that opens a table, from after its bracket on. -/
def tableHeader (p : Progress) : Scan Progress := do
  Scan.skip isSpace
  let path := (← key).full
  if p.opened.contains path || p.isClosed path then Scan.invalid
  match Table.changeAt true some path p.table with
  | none => Scan.invalid
  | some t =>
    Scan.require [']']
    return { p with table := t, header := path, opened := path :: p.opened }

/-- A header that adds a table to a list, from after its brackets on. The marks under its path are void for the new
table. -/
def listHeader (p : Progress) : Scan Progress := do
  Scan.skip isSpace
  let k ← key
  if p.isClosed k.full then Scan.invalid
  let kept := fun paths : List (List Text) => paths.filter fun path => !startsWith path k.full
  match Table.changeAt true (Table.grow k.last) k.path p.table with
  | none => Scan.invalid
  | some t =>
    Scan.require [']', ']']
    return { p with table := t, header := k.full, opened := k.full :: kept p.opened, closed := kept p.closed }

/-- An entry of the table that the last header opened. The value is read with fuel. -/
def entry (fuel : Nat) (p : Progress) : Scan Progress := do
  let k ← key
  Scan.require ['=']
  Scan.skip isSpace
  let v ← value fuel
  let onTheWay := (List.range k.path.length).map fun i => p.header ++ k.path.take (i + 1)
  if onTheWay.any p.opened.contains || p.isClosed (p.header ++ k.path) then Scan.invalid
  match Table.changeAt true (Table.add k.last v) (p.header ++ k.path) p.table with
  | none => Scan.invalid
  | some t =>
    return { p with
      table := t
      pending := onTheWay ++ p.pending
      closed := if isClosed v then (p.header ++ k.full) :: p.closed else p.closed }

/-- The statement that begins with a character which is not a line feed. -/
def statement (fuel : Nat) (c : Char) (p : Progress) : Scan Progress := do
  let p ←
    if isKeyChar c || c == '\'' || c == '"' then entry fuel p
    else if c = '[' then
      let p := { p with opened := p.pending ++ p.opened, pending := [] }
      Scan.require ['[']
      if ← Scan.accept ['['] then listHeader p else tableHeader p
    else if c = '#' then pure p
    else Scan.invalid
  Scan.skip isSpace
  comment
  return p

/-- The statements to the end of a document. Every round takes at least one character, or the document ends. -/
def statements : Nat → Progress → Scan Table
  | 0, _ => Scan.invalid
  | fuel + 1, p => do
    Scan.skip isSpace
    match ← Scan.peek? with
    | none => return p.table
    | some c =>
      let p ← if c = '\n' then pure p else statement fuel c p
      match ← Scan.peek? with
      | none => return p.table
      | some _ =>
        Scan.require ['\n']
        statements fuel p

/-- Carriage returns before line feeds are dropped. -/
def joinBreaks : Text → Text
  | '\r' :: '\n' :: t => '\n' :: joinBreaks t
  | c :: t => c :: joinBreaks t
  | [] => []

/-- The table that a document holds. -/
def parse (document : Text) : Except Fault Table :=
  let t := joinBreaks document
  (statements (t.length + 1) {}).run' t

end BarTemplate.Toml
