import BarTemplate.Text.Basic

/-!
# Dates and times

Dates of the Gregorian calendar from year 1 on, times of day to the microsecond, and moments, which have an offset from
universal time unless they are local. Each has one shown form, in which the seconds of a moment are left out if nothing
follows them and they are zero.
-/

namespace BarTemplate

/-- A date. -/
structure Date where
  year : Nat
  month : Nat
  day : Nat
  deriving DecidableEq, Repr

/-- A time of day. -/
structure TimeOfDay where
  hour : Nat
  minute : Nat
  second : Nat
  microsecond : Nat
  deriving DecidableEq, Repr

/-- A date and a time of day, with the minutes that they are ahead of universal time if that is known. -/
structure Moment where
  date : Date
  time : TimeOfDay
  offset : Option Int
  deriving DecidableEq, Repr

/-- A year with a leap day. -/
def isLeapYear (year : Nat) : Bool :=
  year % 4 = 0 && (year % 100 ≠ 0 || year % 400 = 0)

/-- The number of days of a month. -/
def daysInMonth (year month : Nat) : Nat :=
  if month = 2 then if isLeapYear year then 29 else 28
  else if month = 4 ∨ month = 6 ∨ month = 9 ∨ month = 11 then 30
  else 31

/-- The date is in the calendar. -/
def Date.isValid (d : Date) : Bool :=
  1 ≤ d.year && 1 ≤ d.month && d.month ≤ 12 && 1 ≤ d.day && d.day ≤ daysInMonth d.year d.month

/-- Numbers with commas between them. -/
def listed (numbers : List Nat) : Text :=
  Text.joinWith ", " (numbers.map Text.ofNat)

/-- The numbers of a date. -/
def Date.numbers (d : Date) : List Nat :=
  [d.year, d.month, d.day]

/-- The numbers of a time of day. Hours and minutes are always among them, the others as far as the last that is not
zero. -/
def TimeOfDay.numbers (t : TimeOfDay) : List Nat :=
  [t.hour, t.minute] ++
    if t.microsecond ≠ 0 then [t.second, t.microsecond] else if t.second ≠ 0 then [t.second] else []

/-- A date as it is shown. -/
def Date.shown (d : Date) : Text :=
  "datetime.date(" ++ listed d.numbers ++ ")"

/-- A time of day as it is shown. -/
def TimeOfDay.shown (t : TimeOfDay) : Text :=
  "datetime.time(" ++ listed t.numbers ++ ")"

/-- An offset as it is shown: days, of which there are none or minus one, and seconds. -/
def shownOffset (minutes : Int) : Text :=
  if minutes = 0 then "datetime.timezone.utc"
  else
    let days : Text := if minutes < 0 then "days=-1, " else []
    "datetime.timezone(datetime.timedelta(" ++ days ++ "seconds=" ++ Text.ofInt (minutes * 60 % 86400) ++ "))"

/-- A moment as it is shown. -/
def Moment.shown (m : Moment) : Text :=
  let zone : Text := match m.offset with
    | none => []
    | some minutes => ", tzinfo=" ++ shownOffset minutes
  "datetime.datetime(" ++ listed (m.date.numbers ++ m.time.numbers) ++ zone ++ ")"

end BarTemplate
