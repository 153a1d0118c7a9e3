import BarTemplate.Number.Numeral
import BarTemplate.Setting.Basic

/-!
# The depth setting

The nesting depth has to be a positive integer, wherever it comes from. A value that is none is shown in the message,
which is possible only if no integer in it is too long.
-/

namespace BarTemplate

/-- A value that is no depth, and where it comes from. -/
structure DepthError where
  origin : Text
  value : Setting

mutual

/-- A value has an integer in it that is too long to be shown. -/
def Setting.isLong : Setting → Bool
  | .integer i => decide (Numeral.maxDigits < (Text.ofNat i.natAbs).length)
  | .list items => isLongAmong items
  | .table entries => isLongUnder entries
  | _ => false

/-- One of several values has an integer in it that is too long to be shown. -/
def Setting.isLongAmong : List Setting → Bool
  | [] => false
  | v :: vs => v.isLong || isLongAmong vs

/-- An entry has an integer in it that is too long to be shown. -/
def Setting.isLongUnder : List (Text × Setting) → Bool
  | [] => false
  | (_, v) :: entries => v.isLong || isLongUnder entries

end

/-- The error in words, for a value that can be shown. -/
def DepthError.message (e : DepthError) : Text :=
  "invalid max_depth from " ++ e.origin ++ " (expected a positive integer): " ++ e.value.shown

/-- The depth that a value is. -/
def Setting.depth (v : Setting) (origin : Text) : Except DepthError Int :=
  match v with
  | .integer i => if 1 ≤ i then .ok i else .error ⟨origin, v⟩
  | _ => .error ⟨origin, v⟩

/-- The depth in a configuration: the entry `max_depth` of the table `parser`, if there is one. -/
def Table.depth? (config : Table) : Option Setting :=
  match config.get? "parser" with
  | some (.table parser) => Table.get? parser "max_depth"
  | _ => none

end BarTemplate
