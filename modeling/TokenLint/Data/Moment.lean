import TokenLint.Text.Line

/-!
# Moments

Dates, times of day, and both together, with or without a distance from universal time, down to the
microsecond. Calendar dates and day numbers convert into each other; day zero is the first of January
1970.

## Main definitions

* `Date`, `TimeOfDay`, `Moment`: The values.
* `Date.isValid`, `TimeOfDay.isValid`: Whether there is such a date or time.
* `Date.ofDayNumber`: The date of a day.
* `Moment.text`, `Moment.literal`: The standard form and the literal form.
-/

namespace TokenLint

/-- A calendar date. -/
structure Date where
  /-- The year. -/
  year : Nat
  /-- The month, counted from one. -/
  month : Nat
  /-- The day of the month, counted from one. -/
  day : Nat
deriving DecidableEq, Repr

/-- A time of day. -/
structure TimeOfDay where
  /-- The hour. -/
  hour : Nat
  /-- The minute. -/
  minute : Nat
  /-- The second. -/
  second : Nat
  /-- The microsecond. -/
  microsecond : Nat
deriving DecidableEq, Repr

/-- A date, a time of day, or both. -/
inductive Moment where
  /-- A date. -/
  | date (d : Date)
  /-- A time of day. -/
  | time (t : TimeOfDay)
  /-- Both, and perhaps the distance from universal time in minutes. -/
  | instant (d : Date) (t : TimeOfDay) (offset : Option Int)
deriving DecidableEq, Repr

/-- A number in decimal digits, with zeros in front up to a width. -/
def paddedNat (width n : Nat) : String :=
  let digits := Nat.toDigits 10 n
  String.ofList (List.replicate (width - digits.length) '0' ++ digits)

namespace Date

/-- Whether a year has a leap day. -/
def isLeap (year : Nat) : Bool := year % 4 = 0 && (year % 100 ≠ 0 || year % 400 = 0)

/-- The number of days of a month. -/
def daysIn (year month : Nat) : Nat :=
  if month = 2 then (if isLeap year then 29 else 28)
  else if month = 4 ∨ month = 6 ∨ month = 9 ∨ month = 11 then 30
  else 31

/-- Whether there is such a date. -/
def isValid (d : Date) : Bool :=
  1 ≤ d.year && 1 ≤ d.month && d.month ≤ 12 && 1 ≤ d.day && d.day ≤ daysIn d.year d.month

/-- The year, the month and the day of the month of a day by its number, where years may be less than
one. Years are counted from March here, so that a leap day is the last day of its year; 719468 days lead
from the first of March of year zero to day zero. -/
def partsOfDay (number : Int) : Int × Nat × Nat :=
  let shifted := number + 719468
  let era := shifted.fdiv 146097
  let dayOfEra := (shifted - era * 146097).toNat
  let yearOfEra := (dayOfEra - dayOfEra / 1460 + dayOfEra / 36524 - dayOfEra / 146096) / 365
  let dayOfYear := dayOfEra - (365 * yearOfEra + yearOfEra / 4 - yearOfEra / 100)
  let monthFromMarch := (5 * dayOfYear + 2) / 153
  let day := dayOfYear - (153 * monthFromMarch + 2) / 5 + 1
  let month := if monthFromMarch < 10 then monthFromMarch + 3 else monthFromMarch - 9
  (era * 400 + yearOfEra + (if month ≤ 2 then 1 else 0), month, day)

/-- The date of a day by its number. -/
def ofDayNumber (number : Int) : Date :=
  let (year, month, day) := partsOfDay number
  ⟨year.toNat, month, day⟩

/-- The standard form of a date. -/
def text (d : Date) : String :=
  s!"{paddedNat 4 d.year}-{paddedNat 2 d.month}-{paddedNat 2 d.day}"

end Date

namespace TimeOfDay

/-- Whether there is such a time. -/
def isValid (t : TimeOfDay) : Bool := t.hour < 24 && t.minute < 60 && t.second < 60

/-- The standard form of a time. A fraction is written only if there is one. -/
def text (t : TimeOfDay) : String :=
  let fraction := if t.microsecond = 0 then "" else "." ++ paddedNat 6 t.microsecond
  s!"{paddedNat 2 t.hour}:{paddedNat 2 t.minute}:{paddedNat 2 t.second}{fraction}"

/-- The parts of a time that a literal form lists: seconds and microseconds only if they are not zero. -/
def parts (t : TimeOfDay) : List Nat :=
  if t.microsecond ≠ 0 then [t.hour, t.minute, t.second, t.microsecond]
  else if t.second ≠ 0 then [t.hour, t.minute, t.second]
  else [t.hour, t.minute]

end TimeOfDay

namespace Moment

/-- What kind of moment it is. -/
def kind : Moment → String
  | date _ => "date"
  | time _ => "time"
  | instant _ _ _ => "datetime"

/-- The standard form of a distance from universal time. -/
def offsetText (minutes : Int) : String :=
  let sign := if minutes < 0 then "-" else "+"
  s!"{sign}{paddedNat 2 (minutes.natAbs / 60)}:{paddedNat 2 (minutes.natAbs % 60)}"

/-- The literal form of a distance from universal time. -/
def offsetLiteral (minutes : Int) : String :=
  if minutes = 0 then "datetime.timezone.utc"
  else if 0 < minutes then s!"datetime.timezone(datetime.timedelta(seconds={minutes * 60}))"
  else s!"datetime.timezone(datetime.timedelta(days=-1, seconds={86400 + minutes * 60}))"

/-- The standard form. -/
def text : Moment → String
  | date d => d.text
  | time t => t.text
  | instant d t offset =>
    let zone := match offset with
      | some minutes => offsetText minutes
      | none => ""
    s!"{d.text} {t.text}{zone}"

/-- Numbers in a row. -/
def listed (numbers : List Nat) : String := Text.joinWith ", " (numbers.map toString)

/-- The literal form. -/
def literal : Moment → String
  | date d => s!"datetime.date({listed [d.year, d.month, d.day]})"
  | time t => s!"datetime.time({listed t.parts})"
  | instant d t offset =>
    let zone := match offset with
      | some minutes => ", tzinfo=" ++ offsetLiteral minutes
      | none => ""
    s!"datetime.datetime({listed ([d.year, d.month, d.day] ++ t.parts)}{zone})"

end Moment

end TokenLint
