import TokenLint.Number.Reading
import TokenLint.Settings.Value
import TokenLint.Text.Digit

/-!
# Numbers and moments in TOML

A number is written in digits, between which single underscores may stand. Whole numbers may also have
the bases sixteen, eight and two. A moment is a date, a time, or both, and both may be followed by the
distance from universal time.

What does not belong to a value any more is left to the reader of the document, which refuses it unless
a value may end there.

## Main definitions

* `moment?`: A date or a time.
* `number?`: A number.
* `ScalarFault`: Why something that looks like a value is none.
-/

namespace TokenLint

namespace Toml

/-- Why something that looks like a value is none. -/
inductive ScalarFault where
  /-- It is not written as a value is. -/
  | malformed
  /-- It is a whole number with more digits than are read. -/
  | tooLong (digits : Nat)
  /-- Values are nested too deep in it. -/
  | tooDeep
deriving DecidableEq, Repr

/-- The digits that follow a first one. -/
def moreDigits (value? : Char → Option Nat) : List Char → List Nat × List Char
  | '_' :: c :: cs =>
    match value? c with
    | some d =>
      let (ds, rest) := moreDigits value? cs
      (d :: ds, rest)
    | none => ([], '_' :: c :: cs)
  | c :: cs =>
    match value? c with
    | some d =>
      let (ds, rest) := moreDigits value? cs
      (d :: ds, rest)
    | none => ([], c :: cs)
  | [] => ([], [])

/-- A row of digits that starts here. -/
def digits? (value? : Char → Option Nat) : List Char → Option (List Nat × List Char)
  | c :: cs => (value? c).map fun d =>
    let (ds, rest) := moreDigits value? cs
    (d :: ds, rest)
  | [] => none

/-- The value of a digit of a base up to ten. -/
def lowDigit? (base : Nat) (c : Char) : Option Nat := (Text.asciiDigit? c).filter (· < base)

/-- A whole number in another base that starts here. -/
def based? : List Char → Option (Int × List Char)
  | '0' :: c :: cs =>
    let read (base : Nat) (value? : Char → Option Nat) :=
      (digits? value? cs).map fun (ds, rest) => ((Text.ofDigits base ds : Int), rest)
    match c with
    | 'x' => read 16 Text.hexDigit?
    | 'o' => read 8 (lowDigit? 8)
    | 'b' => read 2 (lowDigit? 2)
    | _ => none
  | _ => none

/-- A sign that starts here, and whether it is a minus. -/
def sign : List Char → Bool × List Char
  | '-' :: cs => (true, cs)
  | '+' :: cs => (false, cs)
  | cs => (false, cs)

/-- The digits before a point: a zero, or a row that does not start with one. -/
def wholePart? : List Char → Option (List Nat × List Char)
  | '0' :: cs => some ([0], cs)
  | cs => digits? Text.asciiDigit? cs

/-- The digits after a point that starts here, if there are any. -/
def fraction (cs : List Char) : Option (List Nat) × List Char :=
  match cs with
  | '.' :: rest =>
    match digits? Text.asciiDigit? rest with
    | some (ds, rest) => (some ds, rest)
    | none => (none, cs)
  | _ => (none, cs)

/-- The exponent that starts here, if there is one. -/
def exponent (cs : List Char) : Option Int × List Char :=
  match cs with
  | c :: rest =>
    if c = 'e' ∨ c = 'E' then
      let (negative, rest) := sign rest
      match digits? Text.asciiDigit? rest with
      | some (ds, rest) => (some (Binary64.signed negative (Text.ofDigits 10 ds)), rest)
      | none => (none, cs)
    else (none, cs)
  | [] => (none, cs)

/-- A decimal that starts here. -/
def decimal? (cs : List Char) : Option (Except ScalarFault Setting × List Char) := do
  let (negative, rest) := sign cs
  let (whole, rest) ← wholePart? rest
  let (part, rest) := fraction rest
  let (power, rest) := exponent rest
  match part, power with
  | none, none =>
    if Number.digitLimit < whole.length then return (.error (.tooLong whole.length), rest)
    else return (.ok (.int (Binary64.signed negative (Text.ofDigits 10 whole))), rest)
  | _, _ =>
    let part := part.getD []
    let value := Binary64.ofDecimal negative (Text.ofDigits 10 (whole ++ part))
      (power.getD 0 - part.length)
    return (.ok (.number value), rest)

/-- An infinity or what is no number, if one starts here. -/
def special? (cs : List Char) : Option (Binary64 × List Char) :=
  let (negative, rest) := sign cs
  match rest with
  | 'i' :: 'n' :: 'f' :: rest => some (.infinite negative, rest)
  | 'n' :: 'a' :: 'n' :: rest => some (.nan, rest)
  | _ => none

/-- A number that starts here. -/
def number? (cs : List Char) : Option (Except ScalarFault Setting × List Char) :=
  match based? cs with
  | some (n, rest) => some (.ok (.int n), rest)
  | none =>
    match decimal? cs with
    | some found => some found
    | none => (special? cs).map fun (x, rest) => (.ok (.number x), rest)

/-- A number of exactly so many digits that starts here. -/
def fixed? (count : Nat) (cs : List Char) : Option (Nat × List Char) := do
  let digits ← (cs.take count).mapM Text.asciiDigit?
  if digits.length = count then some (Text.ofDigits 10 digits, cs.drop count) else none

/-- A number of two digits within bounds after a mark. -/
def field? (mark : Char) (least greatest : Nat) : List Char → Option (Nat × List Char)
  | c :: cs => do
    let (n, rest) ← fixed? 2 cs
    if c = mark ∧ least ≤ n ∧ n ≤ greatest then some (n, rest) else none
  | [] => none

/-- A time of day that starts here. Digits past the microseconds are cut off. -/
def time? (cs : List Char) : Option (TimeOfDay × List Char) := do
  let (hour, rest) ← fixed? 2 cs
  if 23 < hour then none
  let (minute, rest) ← field? ':' 0 59 rest
  let (second, rest) ← field? ':' 0 59 rest
  match rest with
  | '.' :: tail =>
    let digits := (tail.takeWhile fun c => (Text.asciiDigit? c).isSome)
    if digits.isEmpty then return (⟨hour, minute, second, 0⟩, rest)
    let micros := (digits.filterMap Text.asciiDigit? ++ List.replicate 6 0).take 6
    return (⟨hour, minute, second, Text.ofDigits 10 micros⟩, tail.drop digits.length)
  | _ => return (⟨hour, minute, second, 0⟩, rest)

/-- The distance from universal time in minutes that starts here, if there is one. -/
def offset (cs : List Char) : Option Int × List Char :=
  match cs with
  | c :: rest =>
    if c = 'Z' ∨ c = 'z' then (some 0, rest)
    else if c = '+' ∨ c = '-' then
      match fixed? 2 rest with
      | some (hours, tail) =>
        match field? ':' 0 59 tail with
        | some (minutes, tail) =>
          if hours ≤ 23 then (some (Binary64.signed (c = '-') (hours * 60 + minutes)), tail)
          else (none, cs)
        | none => (none, cs)
      | none => (none, cs)
    else (none, cs)
  | [] => (none, cs)

/-- A date that starts here. Its month and day are in the bounds of any date. -/
def date? (cs : List Char) : Option (Date × List Char) := do
  let (year, rest) ← fixed? 4 cs
  let (month, rest) ← field? '-' 1 12 rest
  let (day, rest) ← field? '-' 1 31 rest
  return (⟨year, month, day⟩, rest)

/-- The time of day that follows a date after a mark, if there is one. -/
def timeAfter? : List Char → Option (TimeOfDay × List Char)
  | c :: rest => if c = 'T' ∨ c = 't' ∨ c = ' ' then time? rest else none
  | [] => none

/-- A date or a time that starts here. A date that the calendar does not have is a fault. -/
def moment? (cs : List Char) : Option (Except ScalarFault Setting × List Char) :=
  match date? cs with
  | some (d, rest) =>
    let (m, rest) := match timeAfter? rest with
      | some (t, rest) =>
        let (zone, rest) := offset rest
        (Moment.instant d t zone, rest)
      | none => (.date d, rest)
    some (if d.isValid then .ok (.moment m) else .error .malformed, rest)
  | none => (time? cs).map fun (t, rest) => (.ok (.moment (.time t)), rest)

end Toml

end TokenLint
