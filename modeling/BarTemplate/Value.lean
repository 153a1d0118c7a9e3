import BarTemplate.Number.Binary64
import BarTemplate.Number.Integer
import BarTemplate.Template.Basic

/-!
# Typed argument values

An argument of a formatter, read as a value of a wanted type. A key that stands alone is a true flag and has no value of
any other type. A flag is written `true` or `false` and in no other way. Bytes cannot be written at all.
-/

namespace BarTemplate

/-- The types that the value of an argument can be wanted as. -/
inductive Target where
  | flag
  | text
  | bytes
  | integer
  | binary
  | decimal
  | rational
  deriving DecidableEq, Repr

/-- A typed value. -/
inductive Value where
  | flag (value : Bool)
  | text (value : Text)
  | integer (value : Int)
  | binary (value : Binary64)
  | decimal (value : Decimal)
  | rational (value : Rat)
  deriving DecidableEq

/-- Why an argument has no value of the wanted type. -/
inductive ValueFault where
  | missing
  | invalid
  deriving DecidableEq, Repr

/-- The argument with a key has no value of the wanted type. -/
structure ValueError where
  key : Text
  fault : ValueFault
  deriving DecidableEq, Repr

/-- The error in words. -/
def ValueError.message (e : ValueError) : Text :=
  let fault : Text := match e.fault with
    | .missing => "missing"
    | .invalid => "invalid"
  fault ++ " value for argument '" ++ e.key ++ "'"

/-- The flag that a text stands for. -/
def flagOfText? (t : Text) : Option Bool :=
  if t = "true" then some true else if t = "false" then some false else none

/-- The value of a wanted type that a text stands for. -/
def Target.read? (target : Target) (t : Text) : Option Value :=
  match target with
  | .flag => (flagOfText? t).map .flag
  | .text => some (.text t)
  | .bytes => none
  | .integer => (integerOfText? t).map .integer
  | .binary => (Binary64.ofText? t).map .binary
  | .decimal => (Decimal.ofText? t).map .decimal
  | .rational => (rationalOfText? t).map .rational

/-- The value of an argument as a wanted type. -/
def Argument.valueAs (a : Argument) (target : Target) : Except ValueError Value :=
  match a.value with
  | none => if target = .flag then .ok (.flag true) else .error ⟨a.key, .missing⟩
  | some t =>
    match target.read? t with
    | some v => .ok v
    | none => .error ⟨a.key, .invalid⟩

end BarTemplate
