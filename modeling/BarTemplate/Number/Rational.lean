import BarTemplate.Number.Numeral
import BarTemplate.Number.Power

/-!
# Exact ratios from text

A ratio is written as a fraction of integers or as a decimal numeral. Each written part is converted on its own, so the
limit on the number of digits holds for each.
-/

namespace BarTemplate

/-- An integer times a power of ten. -/
def scaled (n : Int) (exponent : Int) : Rat :=
  if 0 ≤ exponent then (n * tenTo exponent.toNat : Int) else mkRat n (tenTo (-exponent).toNat)

/-- The value of a written ratio, if its parts are not too long and its denominator is not zero. -/
def Numeral.Ratio.value? (r : Numeral.Ratio) : Option Rat := do
  let n ← r.numerator.value?
  let d ← (Whole.value? ⟨false, r.denominator⟩)
  if d = 0 then none else return mkRat n d.toNat

/-- The exact value of a decimal numeral, if its parts are not too long. -/
def Numeral.Decimal.value? (d : Numeral.Decimal) : Option Rat := do
  let fits := fun ds : List Nat => decide (ds.length ≤ maxDigits)
  if fits d.before && fits d.after && (d.exponent.elim true fun e => fits e.digits) then
    return scaled (signed d.negative d.coefficient) d.scale
  else none

/-- The ratio that a text stands for, with white space around it. -/
def rationalOfText? (t : Text) : Option Rat :=
  let t := t.trimBy Unicode.isBlank
  match Numeral.ratio? t with
  | some r => r.value?
  | none => (Numeral.decimal? t).bind Numeral.Decimal.value?

end BarTemplate
