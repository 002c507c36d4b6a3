import TokenLint.Number.Reading
import TokenLint.Settings.Value
import TokenLint.Settings.Violation

/-!
# Readings of raw settings

A raw value read as what a setting needs. Readings are generous: a truth value and a number without a
fraction are whole numbers, and so is a text that writes one; a truth value may be written as a number
or as a word.

## Main definitions

* `Setting.whole`: A whole number.
* `Setting.truth`: A truth value.
* `Setting.wording`: A text.
* `Setting.wordings`: A list of texts, or a single one.
* `Setting.entries`: A table.
-/

namespace TokenLint

namespace Setting

/-- Whether a whole number takes no more than 64 bits with its sign. -/
def isWordSized (n : Int) : Bool := -9223372036854775808 ≤ n && n ≤ 9223372036854775807

/-- The whole number that a text writes plainly: a minus sign or none, and ASCII digits, of which the
first is no zero unless it is the only one. The sign counts for how long the number is. -/
def plainWhole (cs : List Char) : Except Flaw Int :=
  let (negative, body) : Bool × List Char := match cs with
    | '-' :: rest => (true, rest)
    | _ => (false, cs)
  let digits := body.takeWhile Char.isDigit
  if digits.isEmpty || (digits.head? = some '0' && 1 < digits.length) then .error .unreadableWhole
  else if Number.digitLimit < digits.length + (cs.length - body.length) then .error .oversizedWhole
  else if digits.length < body.length then .error .unreadableWhole
  else .ok (Binary64.signed negative (Text.ofDigits 10 (digits.filterMap Text.asciiDigit?)))

/-- What is left of a text when zeros at its front are dropped, of which `last` was one. Underscores
between them are dropped too. A fraction keeps the character in front of it. -/
def afterZeros (last : Char) : List Char → Option (List Char)
  | [] => some [last]
  | c :: cs =>
    if c = '0' ∨ c = '_' then afterZeros c cs
    else if c.isDigit ∨ c = '-' then some (c :: cs)
    else if c = '.' then some (last :: c :: cs)
    else none

/-- A text without superfluous zeros at its front, a minus sign aside. A text that starts as no number
does is none. -/
def dropZeros? : List Char → Option (List Char)
  | [] => none
  | c :: cs =>
    if c = '-' then (dropZeros? cs).map (c :: ·)
    else if c = '0' then afterZeros c cs
    else if c.isDigit then some (c :: cs)
    else none

/-- A text without the sign of a positive number. No second sign may follow it. -/
def dropPlus? : List Char → Option (List Char)
  | '+' :: '-' :: _ => none
  | '+' :: cs => some cs
  | cs => some cs

/-- A text without the fraction at its end, if that has zeros only, and at least one. -/
def dropZeroFraction (cs : List Char) : List Char :=
  let whole := cs.takeWhile (· != '.')
  match cs.drop whole.length with
  | _ :: digit :: digits => if (digit :: digits).all (· == '0') then whole else cs
  | _ => cs

/-- Whether a text has two underscores in a row. -/
def hasDoubledBar : List Char → Bool
  | '_' :: '_' :: _ => true
  | _ :: cs => hasDoubledBar cs
  | [] => false

/-- A text without its underscores, if they stand one by one inside it. -/
def dropBars (cs : List Char) : List Char :=
  if cs.head? = some '_' ∨ cs.getLast? = some '_' ∨ hasDoubledBar cs then cs else cs.filter (· != '_')

/-- A text that writes a whole number generously, in the plain way: without white space around it, a
plus sign, superfluous zeros at either end, and underscores between digits. -/
def plainForm? (cs : List Char) : Option (List Char) := do
  let cs ← dropPlus? (Text.trim Text.isWhiteSpace cs)
  let cs ← dropZeros? cs
  return dropBars (dropZeroFraction cs)

/-- The whole number that a text writes. How long it is counts only where it is written plainly. -/
def wholeOfText (s : String) : Except Flaw Int :=
  match plainWhole s.toList with
  | .error .unreadableWhole =>
    match (plainForm? s.toList).map plainWhole with
    | some (.ok n) => .ok n
    | _ => .error .unreadableWhole
  | answer => answer

/-- The whole number that a number without a fraction is. -/
def wholeOfNumber (x : Binary64) : Except Flaw Int :=
  match x with
  | .finite _ _ _ =>
    match x.whole? with
    | some n =>
      -- The bounds of 64 bits are not taken in, since numbers near them are not exact.
      if n.natAbs < 9223372036854775808 then .ok n else .error .oversizedWhole
    | none => .error .fractional
  | _ => .error .notFinite

/-- The whole number that a value is. -/
def whole : Setting → Except Flaw Int
  | bool b => .ok (if b then 1 else 0)
  | int n => .ok n
  | number x => wholeOfNumber x
  | string s => wholeOfText s
  | _ => .error .noWhole

/-- The words for yes. -/
def yesWords : List String := ["1", "on", "t", "true", "y", "yes"]

/-- The words for no. -/
def noWords : List String := ["0", "off", "f", "false", "n", "no"]

/-- The truth value that a whole number is. -/
def truthOfWhole (n : Int) : Except Flaw Bool :=
  if n = 0 then .ok false
  else if n = 1 then .ok true
  else if isWordSized n then .error .unreadableTruth
  else .error .noTruth

/-- The truth value that a value is. -/
def truth : Setting → Except Flaw Bool
  | bool b => .ok b
  | int n => truthOfWhole n
  | number x =>
    match wholeOfNumber x with
    | .ok n => truthOfWhole n
    | .error _ => .error .noTruth
  | string s =>
    let word := s.map Char.toLower
    if yesWords.contains word then .ok true
    else if noWords.contains word then .ok false
    else .error .unreadableTruth
  | _ => .error .noTruth

/-- The text that a value is. -/
def wording : Setting → Except Flaw String
  | string s => .ok s
  | _ => .error .noText

/-- The entries of the table that a value is. -/
def entries : Setting → Except Flaw Table
  | table t => .ok t
  | _ => .error .noTable

/-- The results of readings, or else all violations, each with the step to its value in front. -/
def gather {α : Type} : List (Step × Except Flaw α) → Except (List Violation) (List α)
  | [] => .ok []
  | (_, .ok a) :: rest => (gather rest).map (a :: ·)
  | (step, .error flaw) :: rest =>
    match gather rest with
    | .ok _ => .error [⟨[step], flaw⟩]
    | .error vs => .error (⟨[step], flaw⟩ :: vs)

/-- The texts in the list that a value is. A single text is a list of its own. -/
def wordings : Setting → Except (List Violation) (List String)
  | string s => .ok [s]
  | list items => gather (items.mapIdx fun n item => (.index n, item.wording))
  | _ => .error [⟨[], .noList⟩]

/-- The tables in the table that a value is. -/
def tables : Setting → Except (List Violation) (List (String × Table))
  | table t => gather (t.map fun (name, item) => (.name name, item.entries.map (name, ·)))
  | _ => .error [⟨[], .noTable⟩]

end Setting

end TokenLint
