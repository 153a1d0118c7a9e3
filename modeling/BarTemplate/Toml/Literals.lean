import BarTemplate.Setting.Basic
import BarTemplate.Toml.Strings

/-!
# Numbers, dates and times of a document

A number has no leading zeros, and single underscores may stand between its digits. It is binary floating point if it
has a fraction or an exponent, and an integer otherwise. Integers without a sign may also be written in base 16, 8 or 2.
Dates have the form `1979-05-27`, times the form `07:32:00`, with any number of decimals of a second, of which six
count. A date and a time may follow one another and be followed by an offset.
-/

namespace BarTemplate.Toml

/-- The digits at the front of a text, without the single underscores between them, and the rest. -/
def grouped (isDigit : Char → Bool) (afterDigit : Bool) : Text → Text × Text
  | [] => ([], [])
  | c :: rest =>
    if isDigit c then
      let (ds, r) := grouped isDigit true rest
      (c :: ds, r)
    else if afterDigit && c == '_' then
      match grouped isDigit false rest with
      | ([], _) => ([], c :: rest)
      | found => found
    else ([], c :: rest)

/-- An integer in another base, from after its marker on. -/
def based? (base : Nat) (isDigit : Char → Bool) (t : Text) : Option (Setting × Text) :=
  match grouped isDigit false t with
  | ([], _) => none
  | (ds, r) => some (.integer (baseValue base ds), r)

/-- The digits before the point of a decimal number: a zero, or digits that begin with another one. -/
def wholeDigits? : Text → Option (Text × Text)
  | '0' :: t => some (['0'], t)
  | t =>
    match grouped Char.isDigit false t with
    | ([], _) => none
    | found => some found

/-- The digits after the point of a decimal number, if there is one; the number is shorter if no digit follows. -/
def fractionDigits (t : Text) : Text × Text :=
  match t with
  | '.' :: u =>
    match grouped Char.isDigit false u with
    | ([], _) => ([], t)
    | found => found
  | _ => ([], t)

/-- A sign at the front of a text, as whether it is a minus sign, and the rest. -/
def sign : Text → Bool × Text
  | '-' :: t => (true, t)
  | '+' :: t => (false, t)
  | t => (false, t)

/-- The exponent of a decimal number, if there is one; the number is shorter if no digit follows. -/
def exponent (t : Text) : Option Int × Text :=
  match t with
  | c :: u =>
    if c = 'e' ∨ c = 'E' then
      let (negative, u) := sign u
      match grouped Char.isDigit false u with
      | ([], _) => (none, t)
      | (ds, r) => (some (Numeral.signed negative (baseValue 10 ds)), r)
    else (none, t)
  | [] => (none, t)

/-- A number at the front of a text. A decimal integer with too many digits is a fault. -/
def number? (t : Text) : Option (Except Fault Setting × Text) :=
  let other := match t with
    | '0' :: 'x' :: u => based? 16 isHexDigit u
    | '0' :: 'o' :: u => based? 8 (fun c => '0' ≤ c && c ≤ '7') u
    | '0' :: 'b' :: u => based? 2 (fun c => c == '0' || c == '1') u
    | _ => none
  match other with
  | some (v, r) => some (.ok v, r)
  | none => do
    let (negative, u) := sign t
    let (whole, u) ← wholeDigits? u
    let (fraction, u) := fractionDigits u
    let (exponent, r) := exponent u
    if fraction.isEmpty && exponent.isNone then
      if whole.length ≤ Numeral.maxDigits then
        return (.ok (.integer (Numeral.signed negative (baseValue 10 whole))), r)
      else return (.error (.longInteger whole.length), r)
    else
      let coefficient := baseValue 10 (whole ++ fraction)
      return (.ok (.binary (.ofDecimal negative coefficient (exponent.getD 0 - fraction.length))), r)

/-- A number without digits at the front of a text: infinite or undefined. -/
def namedNumber? (t : Text) : Option (Setting × Text) :=
  let (negative, u) := sign t
  match u with
  | 'i' :: 'n' :: 'f' :: r => some (.binary (.infinite negative), r)
  | 'n' :: 'a' :: 'n' :: r => some (.binary .undefined, r)
  | _ => none

/-- A number with exactly so many digits, within bounds. -/
def fixed? (count low high : Nat) (t : Text) : Option (Nat × Text) :=
  let ds := t.take count
  let n := baseValue 10 ds
  if ds.length = count ∧ ds.all Char.isDigit ∧ low ≤ n ∧ n ≤ high then some (n, t.drop count) else none

/-- The rest of a text after a character. -/
def after? (c : Char) : Text → Option Text
  | d :: t => if d = c then some t else none
  | [] => none

/-- A date at the front of a text. The day may be too great for its month. -/
def date? (t : Text) : Option (Date × Text) := do
  let (year, t) ← fixed? 4 0 9999 t
  let (month, t) ← fixed? 2 1 12 (← after? '-' t)
  let (day, t) ← fixed? 2 1 31 (← after? '-' t)
  return (⟨year, month, day⟩, t)

/-- The microseconds at the front of a text, if a point and a digit are there. -/
def microseconds (t : Text) : Nat × Text :=
  match t with
  | '.' :: u =>
    match u.takeWhile Char.isDigit with
    | [] => (0, t)
    | ds =>
      let counted := ds.take 6
      (baseValue 10 (counted ++ List.replicate (6 - counted.length) '0'), u.dropWhile Char.isDigit)
  | _ => (0, t)

/-- A time of day at the front of a text. -/
def time? (t : Text) : Option (TimeOfDay × Text) := do
  let (hour, t) ← fixed? 2 0 23 t
  let (minute, t) ← fixed? 2 0 59 (← after? ':' t)
  let (second, t) ← fixed? 2 0 59 (← after? ':' t)
  let (microsecond, t) := microseconds t
  return (⟨hour, minute, second, microsecond⟩, t)

/-- An offset from universal time at the front of a text, in minutes. -/
def offset? : Text → Option (Int × Text)
  | [] => none
  | c :: t =>
    if c = 'Z' ∨ c = 'z' then some (0, t)
    else if c = '+' ∨ c = '-' then do
      let (hours, t) ← fixed? 2 0 23 t
      let (minutes, t) ← fixed? 2 0 59 (← after? ':' t)
      return (Numeral.signed (c = '-') (60 * hours + minutes), t)
    else none

/-- A time of day after a date, with its offset if there is one. -/
def timeAfterDate? : Text → Option ((TimeOfDay × Option Int) × Text)
  | [] => none
  | c :: t =>
    if c = 'T' ∨ c = 't' ∨ c = ' ' then do
      let (time, t) ← time? t
      match offset? t with
      | some (minutes, t) => return ((time, some minutes), t)
      | none => return ((time, none), t)
    else none

/-- A date or a moment at the front of a text. A date that is not in the calendar is a fault. -/
def moment? (t : Text) : Option (Except Fault Setting × Text) := do
  let (date, t) ← date? t
  let (v, t) : Setting × Text := match timeAfterDate? t with
    | some ((time, offset), t) => (.moment ⟨date, time, offset⟩, t)
    | none => (.date date, t)
  return (if date.isValid then .ok v else .error .invalid, t)

end BarTemplate.Toml
