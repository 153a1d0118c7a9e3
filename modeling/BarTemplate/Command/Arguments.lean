import BarTemplate.Number.Integer
import BarTemplate.Setting.Basic
import BarTemplate.Unicode.Digit

/-!
# Command-line arguments

The words of a command line, read as options and one operand. Words are classified first, all of them: a word is an
operand, an option, the separator after which all words are operands, or looks like an option and is none. An option may
be shortened to any beginning of its long spelling that no other option shares, its argument may be attached to it or
follow it, and short options without arguments may be joined. Then the words are consumed from left to right. What
cannot be used is reported when all words have been consumed.
-/

namespace BarTemplate.Command

/-- The options. -/
inductive Opt where
  | help
  | template
  | output
  | maxDepth
  | config
  | check
  | debug
  | verbose
  deriving DecidableEq, Repr

/-- The spellings of the options, in the order in which they are looked up. -/
def spellings : List (Text × Opt) :=
  [("-h", .help), ("--help", .help), ("-t", .template), ("--template", .template), ("-o", .output), ("--output", .output),
    ("--max-depth", .maxDepth), ("--config", .config), ("--check", .check), ("--debug", .debug), ("-v", .verbose),
    ("--verbose", .verbose)]

/-- The option with a spelling. -/
def Opt.ofSpelling? (t : Text) : Option Opt :=
  (spellings.find? (·.1 = t)).map (·.2)

/-- The option has an argument. -/
def Opt.takesArgument : Opt → Bool
  | .template | .output | .maxDepth | .config => true
  | .help | .check | .debug | .verbose => false

/-- All spellings of an option, as messages name it. -/
def Opt.shown (o : Opt) : Text :=
  Text.joinWith ['/'] ((spellings.filter (·.2 = o)).map (·.1))

/-- What is wrong with a command line. -/
inductive UsageError where
  | ambiguous (word : Text) (candidates : List Text)
  | expectedArgument (o : Opt)
  | ignoredArgument (o : Opt) (attached : Text)
  | invalidInteger (o : Opt) (value : Text)
  | unrecognized (words : List Text)
  deriving DecidableEq, Repr

/-- The error in words. -/
def UsageError.message : UsageError → Text
  | .ambiguous word candidates =>
    "ambiguous option: " ++ word ++ " could match " ++ Text.joinWith ", " candidates
  | .expectedArgument o => "argument " ++ o.shown ++ ": expected one argument"
  | .ignoredArgument o attached => "argument " ++ o.shown ++ ": ignored explicit argument " ++ Quoted.encode attached
  | .invalidInteger o value => "argument " ++ o.shown ++ ": invalid int value: " ++ Quoted.encode value
  | .unrecognized words => "unrecognized arguments: " ++ Text.joinWith [' '] words

/-- A classified word. An option keeps the spelling that it was found by and the argument that is attached to it. -/
inductive Word where
  | operand (t : Text)
  | separator
  | option (o : Opt) (spelling : Text) (attached : Option Text)
  | unknown (t : Text)
  deriving DecidableEq, Repr

/-- The word of two hyphens. -/
def separatorText : Text := ['-', '-']

/-- Cuts a text at its first equals sign. -/
def cutAtEquals? (t : Text) : Option (Text × Text) :=
  match t.dropWhile (· ≠ '=') with
  | [] => none
  | _ :: attached => some (t.takeWhile (· ≠ '='), attached)

/-- A word that looks like a negative number: a hyphen and digits, which may have a point before the last of them. A
line feed may follow. -/
def looksNegative (t : Text) : Bool :=
  let body := if t.getLast? = some '\n' then t.dropLast else t
  match body with
  | '-' :: number =>
    match number.dropWhile Unicode.isDigit with
    | [] => !number.isEmpty
    | '.' :: decimals => !decimals.isEmpty && decimals.all Unicode.isDigit
    | _ => false
  | _ => false

/-- The options that a word may mean which is not one of the spellings, each as the option word that it would be. A word
with two hyphens may be the beginning of a long spelling; a word with one may be a short spelling and its argument. -/
def candidates (t : Text) : List (Text × Word) :=
  if separatorText <+: t then
    let (start, attached) := match cutAtEquals? t with
      | some (start, attached) => (start, some attached)
      | none => (t, none)
    (spellings.filter fun s => start <+: s.1).map fun s => (s.1, .option s.2 s.1 attached)
  else
    spellings.filterMap fun s =>
      if s.1 = t.take 2 then some (s.1, .option s.2 s.1 (some (t.drop 2)))
      else if t <+: s.1 then some (s.1, .option s.2 s.1 none)
      else none

/-- The option that a word is by a spelling, in full or up to its equals sign. -/
def spelled? (t : Text) : Option Word :=
  match Opt.ofSpelling? t with
  | some o => some (.option o t none)
  | none => do
    let (spelling, attached) ← cutAtEquals? t
    let o ← Opt.ofSpelling? spelling
    return .option o spelling (some attached)

/-- What a word that is not the separator is. -/
def classify (t : Text) : Except UsageError Word :=
  if t.head? ≠ some '-' ∨ t = ['-'] then .ok (.operand t)
  else
    match spelled? t with
    | some w => .ok w
    | none =>
      match candidates t with
      | [(_, w)] => .ok w
      | [] => .ok (if looksNegative t || t.contains ' ' then .operand t else .unknown t)
      | several => .error (.ambiguous t (several.map (·.1)))

/-- Classifies words up to the separator; after it, all words are operands. -/
def classifyAll : List Text → Except UsageError (List Word)
  | [] => .ok []
  | t :: ts =>
    if t = separatorText then .ok (.separator :: ts.map .operand)
    else do
      let w ← classify t
      let ws ← classifyAll ts
      return w :: ws

/-- What a command line asks for. A template that has been given without a text is `none`. -/
structure Arguments where
  input : Option Text := none
  templates : List (Option Text) := []
  output : Option Text := none
  maxDepth : Option Setting := none
  config : Option Text := none
  check : Bool := false
  debug : Bool := false
  verbose : Bool := false

/-- Why a command line is not carried out: it asks for help, or it is wrong. -/
inductive Stop where
  | help
  | usage (e : UsageError)
  deriving DecidableEq, Repr

/-- The arguments after an option without an argument. -/
def Arguments.set (a : Arguments) : Opt → Except Stop Arguments
  | .help => .error .help
  | .check => .ok { a with check := true }
  | .debug => .ok { a with debug := true }
  | .verbose => .ok { a with verbose := true }
  | .template | .output | .maxDepth | .config => .ok a

/-- The arguments after an option with an argument. An argument that is the separator, which only an attached one can
be, counts as none: then there is no text, no path and no number. That is what the early releases of version 3.11 of the
argument parser do; the later ones, from 3.11.10 on at the latest, take an attached separator as it is. -/
def Arguments.give (a : Arguments) (o : Opt) (value : Text) : Except Stop Arguments :=
  let dropped := value = separatorText
  let path := if dropped then [] else value
  match o with
  | .template => .ok { a with templates := a.templates ++ [if dropped then none else some value] }
  | .output => .ok { a with output := some path }
  | .config => .ok { a with config := some path }
  | .maxDepth =>
    if dropped then .ok { a with maxDepth := some (.list []) }
    else
      match integerOfText? value with
      | some n => .ok { a with maxDepth := some (.integer n) }
      | none => .error (.usage (.invalidInteger o value))
  | .help | .check | .debug | .verbose => .ok a

/-- The options that are joined in one word: those without arguments that come first, then the last one with what is
attached to it. Only short options can be joined. -/
def joined (o : Opt) (short : Bool) : Text → Except UsageError (List Opt × Opt × Option Text)
  | [] => if o.takesArgument then .ok ([], o, some []) else .error (.ignoredArgument o [])
  | c :: rest =>
    if o.takesArgument then .ok ([], o, some (c :: rest))
    else
      match short, Opt.ofSpelling? ['-', c] with
      | true, some next =>
        if rest.isEmpty then .ok ([o], next, none)
        else
          match joined next short rest with
          | .error e => .error e
          | .ok (flags, last, attached) => .ok (o :: flags, last, attached)
      | _, _ => .error (.ignoredArgument o (c :: rest))

/-- The options of an option word. -/
def optionsOf (o : Opt) (spelling : Text) : Option Text → Except UsageError (List Opt × Opt × Option Text)
  | none => .ok ([], o, none)
  | some attached => joined o (!decide (separatorText <+: spelling)) attached

/-- What has been consumed of a command line. The operand is `taken` once there was a place for it, and `unused` holds
the words that cannot be used. -/
structure Progress where
  arguments : Arguments := {}
  taken : Bool := false
  unused : List Text := []

/-- Consumes words from left to right. The first operand is the input. A separator before it or right after it is
dropped with it. -/
def consume (p : Progress) : List Word → Except Stop Progress
  | [] => .ok p
  | .unknown t :: ws => consume { p with unused := p.unused ++ [t] } ws
  | .operand t :: ws =>
    if p.taken then consume { p with unused := p.unused ++ [t] } ws
    else
      let q := { p with arguments := { p.arguments with input := some t }, taken := true }
      match ws with
      | .separator :: ws => consume q ws
      | ws => consume q ws
  | .separator :: ws =>
    if p.taken then consume { p with unused := p.unused ++ [separatorText] } ws
    else
      match ws with
      | .operand t :: ws => consume { p with arguments := { p.arguments with input := some t }, taken := true } ws
      | ws => consume { p with taken := true } ws
  | .option o spelling attached :: ws =>
    match optionsOf o spelling attached with
    | .error e => .error (.usage e)
    | .ok (flags, last, attached) =>
      if last.takesArgument then
        match attached, ws with
        | some value, ws =>
          match flags.foldlM Arguments.set p.arguments >>= fun a => a.give last value with
          | .error e => .error e
          | .ok a => consume { p with arguments := a } ws
        | none, .operand value :: ws =>
          match flags.foldlM Arguments.set p.arguments >>= fun a => a.give last value with
          | .error e => .error e
          | .ok a => consume { p with arguments := a } ws
        | none, _ => .error (.usage (.expectedArgument last))
      else
        match (flags ++ [last]).foldlM Arguments.set p.arguments with
        | .error e => .error e
        | .ok a => consume { p with arguments := a } ws

/-- Reads the words of a command line. -/
def Arguments.ofWords (words : List Text) : Except Stop Arguments :=
  match classifyAll words with
  | .error e => .error (.usage e)
  | .ok ws =>
    match consume {} ws with
    | .error e => .error e
    | .ok p => if p.unused.isEmpty then .ok p.arguments else .error (.usage (.unrecognized p.unused))

end BarTemplate.Command
