import BarTemplate.Number.Rational

/-!
# Decimal numbers

Decimal floating-point numbers of any precision: a sign, a coefficient and an exponent, so that `1.10` and `1.1` differ.
There are infinities, and undefined values that may be signalling and may carry a number. The exponent is bounded: the
leading digit may stand at most at 10 to the power 999999999999999999, and no digit below 10 to the power
-1999999999999999997.
-/

namespace BarTemplate

/-- A decimal number. -/
inductive Decimal where
  | finite (negative : Bool) (coefficient : Nat) (exponent : Int)
  | infinite (negative : Bool)
  | undefined (negative signalling : Bool) (payload : Nat)
  deriving DecidableEq, Repr

namespace Decimal

/-- The greatest power of ten that the leading digit may stand at. -/
def maxAdjusted : Int := 999999999999999999

/-- The least power of ten that a digit may stand at. -/
def minExponent : Int := -1999999999999999997

/-- The power of ten that the leading digit stands at. -/
def adjusted (coefficient : Nat) (exponent : Int) : Int :=
  exponent + (Text.ofNat coefficient).length - 1

/-- A finite number, if its exponent is in bounds. -/
def finite? (negative : Bool) (coefficient : Nat) (exponent : Int) : Option Decimal :=
  if adjusted coefficient exponent ≤ maxAdjusted ∧ minExponent ≤ exponent then some (.finite negative coefficient exponent)
  else none

/-- The rest of a text after a word, if the text begins with it in any mixture of cases. -/
def afterWord? : Text → Text → Option Text
  | [], t => some t
  | c :: word, d :: t => if d.toLower = c then afterWord? word t else none
  | _ :: _, [] => none

/-- The number that an undefined value carries: a whole text of digits, or nothing. -/
def payload? (t : Text) : Option Nat :=
  match Numeral.digits false t with
  | (ds, []) => some (Numeral.value ds)
  | _ => none

/-- The number that a text without a sign names by a word. -/
def named? (negative : Bool) (t : Text) : Option Decimal :=
  if afterWord? "inf" t = some [] ∨ afterWord? "infinity" t = some [] then some (.infinite negative)
  else
    match afterWord? "nan" t, afterWord? "snan" t with
    | some rest, _ => (payload? rest).map (.undefined negative false)
    | none, some rest => (payload? rest).map (.undefined negative true)
    | none, none => none

/-- The decimal number that a text stands for. White space around it is dropped, and underscores anywhere are. -/
def ofText? (t : Text) : Option Decimal :=
  let t := (t.trimBy Unicode.isBlank).filter (· ≠ '_')
  match Numeral.decimal? t with
  | some d => finite? d.negative d.coefficient d.scale
  | none =>
    let (negative, t) := Numeral.sign t
    named? negative t

end Decimal

end BarTemplate
