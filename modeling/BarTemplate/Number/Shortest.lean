import BarTemplate.Number.Binary64

/-!
# The shortest decimal of a binary number

A binary number is shown by the fewest decimal digits that read back as the same number, and of those by the nearest.
The decimals that read back are those between the midpoints to its two neighbours, and the midpoints themselves if its
significand is even.
-/

namespace BarTemplate.Shortest

/-- The decimals that read back as one number: those between `low / unit` and `high / unit`. -/
structure Interval where
  low : Nat
  middle : Nat
  high : Nat
  unit : Nat
  closed : Bool

/-- The interval of a positive finite number, in quarters of the distance to its upper neighbour. -/
def interval (significand : Nat) (exponent : Int) : Interval :=
  let below := if significand = twoTo (Binary64.precision - 1) ∧ Binary64.minExponent < exponent then 1 else 2
  let scale := if 2 ≤ exponent then twoTo (exponent - 2).toNat else 1
  { low := (4 * significand - below) * scale
    middle := 4 * significand * scale
    high := (4 * significand + 2) * scale
    unit := if 2 ≤ exponent then 1 else twoTo (2 - exponent).toNat
    closed := significand % 2 = 0 }

/-- A multiple of a power of ten lies in the interval. -/
def Interval.holds (i : Interval) (multiple : Nat) (exponent : Int) : Bool :=
  let (low, d) := overPower tenTo i.low i.unit exponent
  let (high, _) := overPower tenTo i.high i.unit exponent
  if i.closed then low ≤ multiple * d && multiple * d ≤ high else low < multiple * d && multiple * d < high

/-- The multiple of a power of ten that reads back and is nearest to the middle, if there is one. -/
def Interval.nearest? (i : Interval) (exponent : Int) : Option Nat :=
  let (n, d) := overPower tenTo i.middle i.unit exponent
  let q := n / d
  let r := n % d
  match i.holds q exponent, i.holds (q + 1) exponent with
  | true, true => some (if 2 * r < d ∨ (2 * r = d ∧ q % 2 = 0) then q else q + 1)
  | true, false => some q
  | false, true => some (q + 1)
  | false, false => none

/-- The power of ten at or below a positive quotient. -/
def log10Quotient (n d : Nat) : Int :=
  if d ≤ n then (Text.ofNat (n / d)).length - 1
  else
    let k := (Text.ofNat (d / n)).length
    if d ≤ n * tenTo (k - 1) then -((k : Int) - 1) else -(k : Int)

/-- The most digits that the shortest decimal of a number can need. -/
def mostDigits : Nat := 17

/-- Looks for a decimal with so few digits, then with one more, up to the most that can be needed. -/
def search (i : Interval) (leading : Int) (count : Nat) : Nat → Nat × Int
  | 0 => (i.middle, 0)
  | tries + 1 =>
    let exponent := leading - count + 1
    match i.nearest? exponent with
    | some m => (m, exponent)
    | none => search i leading (count + 1) tries

/-- Moves the zeros at the end of a coefficient into the exponent. -/
def dropZeros (m : Nat) (exponent : Int) : Nat → Nat × Int
  | 0 => (m, exponent)
  | tries + 1 => if m ≠ 0 ∧ m % 10 = 0 then dropZeros (m / 10) (exponent + 1) tries else (m, exponent)

/-- The digits of the shortest decimal of a positive finite number, and the power of ten of the leading one. -/
def digits (significand : Nat) (exponent : Int) : Text × Int :=
  let i := interval significand exponent
  let (m, e) := search i (log10Quotient i.middle i.unit) 1 mostDigits
  let (m, e) := dropZeros m e (mostDigits + 1)
  let ds := Text.ofNat m
  (ds, e + ds.length - 1)

/-- How digits are laid out: positionally between two powers of ten, with an exponent of at least two digits otherwise.
A positional number has a digit on both sides of its point. -/
def layOut (ds : Text) (leading : Int) : Text :=
  if -4 ≤ leading ∧ leading < 16 then
    if leading < 0 then "0." ++ List.replicate ((-leading).toNat - 1) '0' ++ ds
    else
      let whole := leading.toNat + 1
      let before := ds.take whole ++ List.replicate (whole - ds.length) '0'
      match ds.drop whole with
      | [] => before ++ ".0"
      | after => before ++ "." ++ after
  else
    let point : Text := match ds.drop 1 with
      | [] => []
      | more => "." ++ more
    let magnitude := Text.ofNat leading.natAbs
    ds.take 1 ++ point ++ (if leading < 0 then "e-" else "e+") ++
      List.replicate (2 - magnitude.length) '0' ++ magnitude

end BarTemplate.Shortest

namespace BarTemplate

/-- A binary number as it is shown. -/
def Binary64.shown : Binary64 → Text
  | .undefined => "nan"
  | .infinite negative => if negative then "-inf" else "inf"
  | .finite negative m e =>
    let magnitude : Text :=
      if m = 0 then "0.0"
      else
        let (ds, leading) := Shortest.digits m e
        Shortest.layOut ds leading
    if negative then '-' :: magnitude else magnitude

end BarTemplate
