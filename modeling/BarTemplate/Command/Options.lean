import BarTemplate.Command.Arguments
import BarTemplate.Command.Host
import BarTemplate.Disk.Basic
import BarTemplate.Nesting
import BarTemplate.Setting.Depth
import BarTemplate.Toml.Document

/-!
# Options in effect

The arguments of a command line together with the configuration. The configuration is a file that is named, or else the
one with the usual name in the directory of the input file; it may be absent. The nesting depth of the command line goes
before the one of the configuration, which has to be acceptable all the same. An empty name of a file counts as none.
-/

namespace BarTemplate.Command

/-- The usual name of a configuration. -/
def configFilename : Text := "statusfmt.toml"

/-- The options in effect. A template that has been given without a text is `none`. -/
structure Options where
  input : Option Path
  templates : List (Option Text)
  output : Option Path
  maxDepth : Int
  check : Bool
  debug : Bool
  verbose : Bool

/-- Why there are no options in effect: the configuration cannot be had or is not valid, a depth is none, or such a
value is too long to be shown; or the machine is not up to reading the one or to showing the other. -/
inductive ConfigError where
  | file (e : ReadError)
  | document (fault : Toml.Fault)
  | depth (e : DepthError)
  | longValue
  | host (fault : Text)

/-- The path that a text names, unless it is empty. -/
def path? (t : Option Text) : Option Path :=
  match t with
  | none | some [] => none
  | some t => some (.ofText t)

/-- The path that stands for the standard input. -/
def standardInput : Path := { parts := [['-']] }

/-- The path of the configuration. -/
def configPath (a : Arguments) : Path :=
  match path? a.config with
  | some p => p
  | none =>
    match path? a.input with
    | none => Path.within {} configFilename
    | some p => if p = standardInput then Path.within {} configFilename else p.parent.within configFilename

/-- The configuration in a file, which is empty if there is no such file. -/
def loadConfig (disk : Disk) (host : Host) (p : Path) : Except ConfigError Table :=
  match disk.readText? p with
  | .error e => .error (.file e)
  | .ok none => .ok []
  | .ok (some document) =>
    match host.readFault document with
    | some fault => .error (.host fault)
    | none =>
      match Toml.parse document with
      | .error f => .error (.document f)
      | .ok t => .ok t

/-- The depth that holds: the one of the command line, or the one of the configuration, or the default. Both are
checked. -/
def depthOf (a : Arguments) (config : Table) : Except DepthError Int := do
  let configured ← match config.depth? with
    | none => pure Nesting.defaultDepth
    | some v => v.depth "config"
  match a.maxDepth with
  | none => return configured
  | some v => v.depth "--max-depth"

/-- What comes of a value that is no depth: a message that shows it, or what keeps it from being shown. -/
def ConfigError.ofDepth (host : Host) (e : DepthError) : ConfigError :=
  match host.showFault e.value with
  | some fault => .host fault
  | none => if e.value.isLong then .longValue else .depth e

/-- The options in effect. -/
def Arguments.resolve (a : Arguments) (disk : Disk) (host : Host := {}) : Except ConfigError Options :=
  match loadConfig disk host (configPath a) with
  | .error e => .error e
  | .ok config =>
    match depthOf a config with
    | .error e => .error (.ofDepth host e)
    | .ok maxDepth => .ok {
        input := path? a.input
        templates := a.templates
        output := path? a.output
        maxDepth
        check := a.check
        debug := a.debug
        verbose := a.verbose }

end BarTemplate.Command
