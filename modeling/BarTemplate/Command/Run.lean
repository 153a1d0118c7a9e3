import BarTemplate.Command.Sources
import BarTemplate.Command.Usage
import BarTemplate.Parse
import BarTemplate.Template.Outline

/-!
# Runs

A run of the program, from the words of its command line to what it leaves behind: how it ends, what stands on its two
output streams, and the file that it writes. Every source is parsed, whatever the others are. Errors are reported as
they come, and the outlines of the templates are written together at the end.
-/

namespace BarTemplate.Command

/-- An error that the program does not handle: a file cannot be had, an integer is too long to be read or shown, or the
machine fails. Of an integer that is shown, the number of its digits is not told. -/
inductive Escape where
  | file (e : ReadError)
  | longInteger (digits : Option Nat)
  | host (fault : Text)

/-- The error in words. -/
def Escape.message : Escape → Text
  | .file e => e.message
  | .longInteger digits =>
    let told : Text := match digits with
      | none => []
      | some n => ": value has " ++ Text.ofNat n ++ " digits"
    "Exceeds the limit (" ++ Text.ofNat Numeral.maxDigits ++ " digits) for integer string conversion" ++ told ++
      "; use sys.set_int_max_str_digits() to increase the limit"
  | .host fault => fault

/-- How a run ends: with an exit code, with an exit code before its work has begun, or by an error that it does not
handle. -/
inductive Ending where
  | returned (code : Nat)
  | exited (code : Nat)
  | escaped (e : Escape)

/-- What a run leaves behind. -/
structure Report where
  ending : Ending
  stdout : Text := []
  stderr : Text := []
  written : Option (Path × Text) := none

/-- What has come of sources: the outlines of those that parse, the number of those that do not, and what has been
reported. -/
structure Batch where
  outlines : Text := []
  errors : Nat := 0
  stderr : Text := []

/-- The outline of a template under a heading that tells its source. -/
def headed (s : Source) (t : Template) : Text :=
  "# " ++ s.filename ++ ":" ++ Text.ofInt s.line ++ "\n" ++ t.outline

/-- What has come of one source. -/
def Options.parseOne (o : Options) (frames : Int) (s : Source) : Batch :=
  let result := parse frames o.maxDepth s.text
  let records := Log.lines o.verbose (Nesting.clampRecords frames o.maxDepth ++ parseRecords s.shown result)
  match result with
  | .error e => { errors := 1, stderr := records ++ e.report s.filename s.line ++ "\n" }
  | .ok t => {
      outlines := if o.check then [] else headed s t
      stderr := records ++ if o.debug then t.outline else [] }

/-- What has come of two batches of sources, one after the other. -/
def Batch.append (a b : Batch) : Batch :=
  ⟨a.outlines ++ b.outlines, a.errors + b.errors, a.stderr ++ b.stderr⟩

/-- What has come of all sources. -/
def Options.parseAll (o : Options) (frames : Int) : List Source → Batch
  | [] => {}
  | s :: rest => (o.parseOne frames s).append (o.parseAll frames rest)

/-- The exit code of a run that has parsed its sources. -/
def Batch.code (b : Batch) : Nat :=
  if b.errors = 0 then 0 else 1

/-- The exit code of a run that has not parsed anything. -/
def unusable : Nat := 2

/-- A run that ends because something is wrong, with a message. -/
def Report.refusal (message : Text) : Report :=
  { ending := .returned unusable, stderr := "error: " ++ message ++ "\n" }

/-- The end of a run that has parsed its sources. -/
def Options.deliver (o : Options) (disk : Disk) (host : Host) (b : Batch) : Report :=
  if o.check then { ending := .returned b.code, stderr := b.stderr }
  else
    match o.output with
    | none =>
      match host.printFault b.outlines with
      | some fault => { ending := .escaped (.host fault), stderr := b.stderr }
      | none => { ending := .returned b.code, stdout := b.outlines, stderr := b.stderr }
    | some p =>
      match disk.writeFault p with
      | some f => { ending := .escaped (.file (.unreadable p f)), stderr := b.stderr }
      | none => { ending := .returned b.code, stderr := b.stderr, written := some (p, b.outlines) }

/-- The end of a run without options in effect. Of a configuration that is not valid, what its reader says is left out,
which the program writes after a colon. -/
def ConfigError.report : ConfigError → Report
  | .depth e => .refusal e.message
  | .document .invalid => .refusal "invalid config file"
  | .document (.longInteger digits) => { ending := .escaped (.longInteger (some digits)) }
  | .longValue => { ending := .escaped (.longInteger none) }
  | .host fault => { ending := .escaped (.host fault) }
  | .file e => { ending := .escaped (.file e) }

/-- The end of a run whose input cannot be had. A name that no file can have is not handled. -/
def inputReport (e : ReadError) : Report :=
  match e with
  | .unreadable _ .nullByte => { ending := .escaped (.file e) }
  | e => .refusal e.message

/-- The end of a run whose command line is not carried out. -/
def Stop.report : Stop → Report
  | .help => { ending := .exited 0, stdout := helpText }
  | .usage e => { ending := .exited unusable, stderr := e.report }

/-- A run with arguments. -/
def Arguments.run (a : Arguments) (disk : Disk) (stdin : Text) (frames : Int) (host : Host := {}) : Report :=
  if a.input.isNone && a.templates.isEmpty then .refusal "no input file or --template given"
  else
    match a.resolve disk host with
    | .error e => e.report
    | .ok o =>
      match o.sources disk stdin with
      | .error e => inputReport e
      | .ok sources => o.deliver disk host (o.parseAll frames sources)

/-- A run of the program. The number of frames is what the nesting cap is told; what the stack is too small for
otherwise is up to the machine. -/
def run (words : List Text) (disk : Disk) (stdin : Text) (frames : Int) (host : Host := {}) : Report :=
  match Arguments.ofWords words with
  | .error stop => stop.report
  | .ok a => a.run disk stdin frames host

/-- A run of the program with a command line that is given by the code points of its words. What comes of words with
lone surrogates is not said. -/
def runOfCodes? (codes : List (List Nat)) (disk : Disk) (stdin : Text) (frames : Int) (host : Host := {}) : Option Report :=
  (codes.mapM Text.ofCodes?).map fun words => run words disk stdin frames host

end BarTemplate.Command
