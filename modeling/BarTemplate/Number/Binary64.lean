import BarTemplate.Number.Decimal
import BarTemplate.Number.Power

/-!
# Binary floating-point numbers

Numbers of the format binary64: a sign, a significand below 2 to the power 53, and an exponent of two. A significand has
its top bit set unless the exponent is the least one. A written number stands for the nearest number of the format, and
for the one with the even significand if two are equally near; what rounds beyond the greatest number is infinite. All
arithmetic is exact.
-/

namespace BarTemplate

/-- A number of the format binary64. A finite one is its significand times two to the power of its exponent. -/
inductive Binary64 where
  | finite (negative : Bool) (significand : Nat) (exponent : Int)
  | infinite (negative : Bool)
  | undefined
  deriving DecidableEq, Repr

namespace Binary64

/-- The number of bits of a significand. -/
def precision : Nat := 53

/-- The least exponent of two. -/
def minExponent : Int := -1074

/-- The greatest exponent of two. -/
def maxExponent : Int := 971

/-- Zero, with a sign. -/
def zero (negative : Bool) : Binary64 :=
  .finite negative 0 minExponent

/-- The natural number nearest to a quotient, and the even one of two that are equally near. -/
def roundDiv (n d : Nat) : Nat :=
  let q := n / d
  let r := n % d
  if 2 * r < d ∨ (2 * r = d ∧ q % 2 = 0) then q else q + 1

/-- The power of two at or below a positive quotient. -/
def log2Quotient (n d : Nat) : Int :=
  let e : Int := (n.log2 : Int) - d.log2
  let (a, b) := overPower twoTo n d e
  if b ≤ a then e else e - 1

/-- The number nearest to a positive quotient, with a sign. -/
def ofQuotient (negative : Bool) (n d : Nat) : Binary64 :=
  let e := max minExponent (log2Quotient n d - (precision - 1 : Nat))
  let (a, b) := overPower twoTo n d e
  let m := roundDiv a b
  let (m, e) := if m = twoTo precision then (twoTo (precision - 1), e + 1) else (m, e)
  if maxExponent < e then .infinite negative else .finite negative m e

/-- A power of ten from which on every number with its leading digit there is infinite. -/
def overflowPower : Int := 310

/-- A power of ten from which on down every number with its leading digit there is zero. -/
def underflowPower : Int := -330

/-- The number nearest to a coefficient times a power of ten, with a sign. -/
def ofDecimal (negative : Bool) (coefficient : Nat) (exponent : Int) : Binary64 :=
  if coefficient = 0 then zero negative
  else
    let leading := Decimal.adjusted coefficient exponent
    if overflowPower ≤ leading then .infinite negative
    else if leading ≤ underflowPower then zero negative
    else if 0 ≤ exponent then ofQuotient negative (coefficient * tenTo exponent.toNat) 1
    else ofQuotient negative coefficient (tenTo (-exponent).toNat)

/-- The number that a text without a sign names by a word. -/
def named? (negative : Bool) (t : Text) : Option Binary64 :=
  if Decimal.afterWord? "inf" t = some [] ∨ Decimal.afterWord? "infinity" t = some [] then some (.infinite negative)
  else if Decimal.afterWord? "nan" t = some [] then some .undefined
  else none

/-- The binary number that a text stands for, with white space around it. -/
def ofText? (t : Text) : Option Binary64 :=
  let t := t.trimBy Numeral.isMargin
  match Numeral.decimal? t with
  | some d => some (ofDecimal d.negative d.coefficient d.scale)
  | none =>
    let (negative, t) := Numeral.sign t
    named? negative t

/-- The 64 bits of a number: the sign, eleven bits for the exponent and 52 for the significand without its top bit. -/
def bits : Binary64 → Nat
  | .finite negative m e =>
    let magnitude := if m < twoTo 52 then m else (e - minExponent + 1).toNat * twoTo 52 + (m - twoTo 52)
    if negative then twoTo 63 + magnitude else magnitude
  | .infinite negative => if negative then 0xFFF0000000000000 else 0x7FF0000000000000
  | .undefined => 0x7FF8000000000000

end Binary64

end BarTemplate
