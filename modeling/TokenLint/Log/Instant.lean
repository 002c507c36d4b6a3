import TokenLint.Data.Moment
import TokenLint.Data.Payload
import TokenLint.Number.Binary64

/-!
# Instants of log lines

An instant is a number of microseconds since the start of 1970. It is written as a date and a time in
universal time; a fraction of a second is left out where there is none. Systems count seconds in 64 bits
and years in 32, and the calendar has the years from 1 to 9999 only.

## Main definitions

* `Instant`: The instants.
* `Instant.Fault`: Why there is no such instant, or no text for it.
* `Instant.ofWhole`, `Instant.ofDecimal`, `Instant.ofPayload`: The instant of a number of seconds.
* `Instant.text`: An instant in words.
-/

namespace TokenLint

/-- A number of microseconds since the start of 1970. -/
structure Instant where
  /-- The number. -/
  micros : Int
deriving DecidableEq, Repr

namespace Instant

/-- Why there is no such instant, or no text for it. -/
inductive Fault where
  /-- A value of such a type is no number of seconds. -/
  | notNumber (type : String)
  /-- The number of seconds is no number. -/
  | nan
  /-- The number of seconds does not fit 64 bits. -/
  | outOfRange
  /-- The number of the year does not fit 32 bits. -/
  | tooFar
  /-- The calendar does not have the year. -/
  | noSuchYear (year : Int)
deriving DecidableEq, Repr

/-- How the fault reads. -/
def Fault.message : Fault → String
  | notNumber type => s!"'{type}' object cannot be interpreted as an integer"
  | nan => "Invalid value NaN (not a number)"
  | outOfRange => "timestamp out of range for platform time_t"
  | tooFar => "[Errno 75] Value too large for defined data type"
  | noSuchYear year => s!"year {year} is out of range"

/-- The number of microseconds of a second. -/
def secondLength : Int := 1000000

/-- The number of microseconds of a day. -/
def dayLength : Int := 86400000000

/-- The instant of a number of microseconds, if its second fits 64 bits. -/
def ofMicros (micros : Int) : Except Fault Instant :=
  let second := micros.fdiv secondLength
  if -9223372036854775808 ≤ second ∧ second < 9223372036854775808 then .ok ⟨micros⟩
  else .error .outOfRange

/-- The instant of a whole number of seconds. -/
def ofWhole (seconds : Int) : Except Fault Instant := ofMicros (seconds * secondLength)

/-- The instant nearest to a number of seconds. The fraction of a second is scaled as a number of double
precision before it is rounded. -/
def ofDecimal (seconds : Binary64) : Except Fault Instant :=
  match seconds, seconds.ratio? with
  | .nan, _ => .error .nan
  | _, none => .error .outOfRange
  | _, some (negative, n, d) =>
    let scaled := (Binary64.ofRatio false (n % d * 1000000) d).ratio?
    let fraction := scaled.elim 0 fun (_, m, e) => roundDiv m e
    ofMicros (Binary64.signed negative (n / d * 1000000 + fraction))

/-- The instant of a value that has to be a number of seconds. -/
def ofPayload : Payload → Except Fault Instant
  | .number x => ofDecimal x
  | .bool b => ofWhole (if b then 1 else 0)
  | .int n => ofWhole n
  | x => .error (.notNumber x.sort)

/-- The number of the year as a system that counts years from 1900 in 32 bits has it. A year just past
the greatest such number comes round to the least one. -/
def systemYear (year : Int) : Except Fault Int :=
  if -2147483648 ≤ year - 1900 ∧ year - 1900 < 2147483648 then .ok (year.bmod 4294967296)
  else .error .tooFar

/-- An instant in words, if the calendar has it. -/
def text (i : Instant) : Except Fault String := do
  let day := i.micros.fdiv dayLength
  let rest := (i.micros - day * dayLength).toNat
  let seconds := rest / 1000000
  let year ← systemYear (Date.partsOfDay day).1
  if year < 1 ∨ 9999 < year then throw (.noSuchYear year)
  let time : TimeOfDay := ⟨seconds / 3600, seconds / 60 % 60, seconds % 60, rest % 1000000⟩
  return (Date.ofDayNumber day).text ++ "T" ++ time.text ++ Moment.offsetText 0

end Instant

end TokenLint
