import BarTemplate.Text.Basic
import BarTemplate.Unicode.Blank
import BarTemplate.Unicode.Digit

/-!
# Numerals

Written numbers, taken apart but not yet valued. The digits are decimal digits of any script, scripts may be mixed, and
a single underscore may stand between two digits. An integer numeral is a sign and digits; a decimal numeral has digits
before or after a point, or both, and may have an exponent; a ratio is an integer numeral over digits without a sign. A
numeral is the whole text.
-/

namespace BarTemplate.Numeral

/-- White space that may surround an integer or a binary number: all of it but the information separators. -/
def isMargin (c : Char) : Bool :=
  Unicode.isBlank c && !(0x1C ≤ c.toNat && c.toNat ≤ 0x1F)

/-- The digits at the front of a text, and the rest. After a digit, one underscore may stand before the next. -/
def digits (afterDigit : Bool) : Text → List Nat × Text
  | [] => ([], [])
  | c :: rest =>
    match Unicode.digitValue? c with
    | some d =>
      let (ds, r) := digits true rest
      (d :: ds, r)
    | none =>
      if afterDigit && c == '_' then
        match digits false rest with
        | ([], _) => ([], c :: rest)
        | found => found
      else ([], c :: rest)

/-- The sign at the front of a text, if there is one, as whether it is a minus sign; and the rest. -/
def sign : Text → Bool × Text
  | '-' :: rest => (true, rest)
  | '+' :: rest => (false, rest)
  | t => (false, t)

/-- The natural number that digits stand for, the most significant first. -/
def value (ds : List Nat) : Nat :=
  ds.foldl (fun n d => 10 * n + d) 0

/-- The integer that a sign and a magnitude stand for. -/
def signed (negative : Bool) (n : Nat) : Int :=
  if negative then -(n : Int) else n

/-- The most digits that a numeral is converted with. -/
def maxDigits : Nat := 4300

/-- A sign and digits. -/
structure Whole where
  negative : Bool
  digits : List Nat
  deriving DecidableEq, Repr

/-- The integer that an integer numeral stands for, if it is not too long. -/
def Whole.value? (w : Whole) : Option Int :=
  if w.digits.length ≤ maxDigits then some (signed w.negative (value w.digits)) else none

/-- Takes a text apart as an integer numeral. -/
def whole? (t : Text) : Option Whole :=
  let (negative, t) := sign t
  match digits false t with
  | ([], _) => none
  | (ds, []) => some ⟨negative, ds⟩
  | _ => none

/-- A sign, the digits before and after a point, and the exponent if one is written. -/
structure Decimal where
  negative : Bool
  before : List Nat
  after : List Nat
  exponent : Option Whole
  deriving DecidableEq, Repr

/-- The digits after a point at the front of a text, none if there is no point; and the rest. -/
def fraction : Text → List Nat × Text
  | '.' :: t => digits false t
  | t => ([], t)

/-- The exponent that a whole text is: nothing, or a letter and an integer numeral. -/
def exponent? : Text → Option (Option Whole)
  | [] => some none
  | c :: t => if c = 'e' ∨ c = 'E' then (whole? t).map some else none

/-- Takes a text apart as a decimal numeral. -/
def decimal? (t : Text) : Option Decimal := do
  let (negative, t) := sign t
  let (before, t) := digits false t
  let (after, t) := fraction t
  if before.isEmpty && after.isEmpty then none
  else return ⟨negative, before, after, ← exponent? t⟩

/-- The magnitude of a decimal numeral as a natural number, without its point and exponent. -/
def Decimal.coefficient (d : Decimal) : Nat :=
  value (d.before ++ d.after)

/-- The power of ten that the coefficient of a decimal numeral is to be multiplied by. -/
def Decimal.scale (d : Decimal) : Int :=
  (d.exponent.elim 0 fun e => signed e.negative (value e.digits)) - d.after.length

/-- A signed numerator over a denominator. -/
structure Ratio where
  numerator : Whole
  denominator : List Nat
  deriving DecidableEq, Repr

/-- Takes a text apart as a ratio. -/
def ratio? (t : Text) : Option Ratio :=
  let (negative, t) := sign t
  match digits false t with
  | ([], _) => none
  | (ds, '/' :: t) =>
    match digits false t with
    | ([], _) => none
    | (es, []) => some ⟨⟨negative, ds⟩, es⟩
    | _ => none
  | _ => none

end BarTemplate.Numeral
