import TokenLint.Text.Line

/-!
# Violations

What is wrong with the values in a table: for each value at fault, where it is and what is wrong with
it.

## Main definitions

* `Step`: A step on the way to a value.
* `Flaw`: What can be wrong with a value.
* `Violation`: A value at fault.
* `Violation.summary`: Several violations in one line.
-/

namespace TokenLint

/-- A step on the way to a value. -/
inductive Step where
  /-- To the value under a name. -/
  | name (s : String)
  /-- To the element at an index. -/
  | index (n : Nat)
deriving DecidableEq, Repr

/-- What can be wrong with a value. -/
inductive Flaw where
  /-- It is not of a kind that can be a whole number. -/
  | noWhole
  /-- It is a text that is no whole number. -/
  | unreadableWhole
  /-- It is a whole number of too many digits, or one with a point that is too large. -/
  | oversizedWhole
  /-- It is a number with a fraction. -/
  | fractional
  /-- It is no finite number. -/
  | notFinite
  /-- It is too small. -/
  | tooSmall
  /-- It is not of a kind that can be a truth value. -/
  | noTruth
  /-- It is neither of the two truth values. -/
  | unreadableTruth
  /-- It is no text. -/
  | noText
  /-- It is no list. -/
  | noList
  /-- It is no table. -/
  | noTable
  /-- It is missing. -/
  | missing
  /-- There is no place for it. -/
  | unexpected
  /-- It is not of a kind that can be one of the choices. -/
  | noChoice
  /-- It is refused, with a message. -/
  | refused (message : String)
deriving DecidableEq, Repr

/-- The word for a flaw. -/
def Flaw.word : Flaw → String
  | noWhole => "int_type"
  | unreadableWhole => "int_parsing"
  | oversizedWhole => "int_parsing_size"
  | fractional => "int_from_float"
  | notFinite => "finite_number"
  | tooSmall => "greater_than_equal"
  | noTruth => "bool_type"
  | unreadableTruth => "bool_parsing"
  | noText => "string_type"
  | noList => "list_type"
  | noTable => "dict_type"
  | missing => "missing"
  | unexpected => "extra_forbidden"
  | noChoice => "enum"
  | refused _ => "value_error"

/-- The message that a flaw brings along. -/
def Flaw.message? : Flaw → Option String
  | refused message => some s!"Value error, {message}"
  | _ => none

/-- A value at fault. -/
structure Violation where
  /-- The way to the value. -/
  place : List Step
  /-- What is wrong with it. -/
  flaw : Flaw
deriving DecidableEq, Repr

namespace Violation

/-- The text of a step. -/
def stepText : Step → String
  | .name s => s
  | .index n => toString n

/-- A violation in words. -/
def text (v : Violation) : String :=
  let place := Text.joinWith "." (v.place.map stepText)
  s!"{place}: {(v.flaw.message?).getD v.flaw.word}"

/-- Several violations in one line. -/
def summary (vs : List Violation) : String := Text.joinWith "; " (vs.map text)

end Violation

end TokenLint
