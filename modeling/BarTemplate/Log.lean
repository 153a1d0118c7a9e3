import BarTemplate.Text.Basic

/-!
# Log records

What the library tells about its work besides its answers.
-/

namespace BarTemplate.Log

/-- How much a record matters. -/
inductive Level where
  | debug
  | warning
  deriving DecidableEq, Repr

/-- The name of a level. -/
def Level.name : Level → Text
  | .debug => "DEBUG"
  | .warning => "WARNING"

/-- A record matters at least as much as a level. -/
def Level.atLeast : Level → Level → Bool
  | .debug, .warning => false
  | _, _ => true

/-- A record, with the name of the part that writes it. -/
structure Record where
  level : Level
  logger : Text
  message : Text
  deriving DecidableEq, Repr

/-- A record on a line of its own. In full it tells its level and its origin. -/
def Record.line (full : Bool) (r : Record) : Text :=
  let origin : Text := if full then r.level.name ++ " " ++ r.logger ++ ": " else []
  origin ++ r.message ++ ['\n']

/-- What records look like on the error stream: all of them in full, or only the messages of warnings. -/
def lines (full : Bool) (records : List Record) : Text :=
  (records.filter fun r => full || r.level.atLeast .warning).flatMap (Record.line full)

end BarTemplate.Log
