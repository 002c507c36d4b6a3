import TokenLint.Number.Binary64
import TokenLint.Text.Blank
import TokenLint.Text.Digit

/-!
# Reading numbers

Whole numbers and decimals as people type them: blanks around them, a sign, digits of any script, and
single underscores between digits.

## Main definitions

* `digitGroup?`: The values of a row of digits with single underscores between them.
* `readWhole`: The whole number that a text is, if it is one and not too long.
* `readDecimal?`: The double-precision number that a text is.
-/

namespace TokenLint

namespace Number

/-- The values of a row of digits, in which single underscores may stand between digits. -/
def digitGroup? (value? : Char → Option Nat) : List Char → Option (List Nat)
  | [] => none
  | [c] => (value? c).map ([·])
  | c :: '_' :: cs => do
    let d ← value? c
    let ds ← digitGroup? value? cs
    return d :: ds
  | c :: cs => do
    let d ← value? c
    let ds ← digitGroup? value? cs
    return d :: ds

/-- A text without its sign, and whether that was a minus. -/
def splitSign : List Char → Bool × List Char
  | '-' :: cs => (true, cs)
  | '+' :: cs => (false, cs)
  | cs => (false, cs)

/-- The number of digits up to which whole numbers are read. -/
def digitLimit : Nat := 4300

/-- Why a text is not read as a whole number. -/
inductive WholeFault where
  /-- It is none. -/
  | malformed
  /-- It has more digits than are read. -/
  | tooLong (digits : Nat)
deriving DecidableEq, Repr

/-- Whether a character may stand in a row of digits. -/
def isInRow (c : Char) : Bool := c = '_' || (Text.digitValue? c).isSome

/-- The whole number that a text is, white space around it aside. How long its row of digits is counts
before what follows the row. -/
def readWhole (s : String) : Except WholeFault Int :=
  let (negative, cs) := splitSign (s.toList.dropWhile Text.isWhiteSpace)
  match digitGroup? Text.digitValue? (cs.takeWhile isInRow) with
  | none => .error .malformed
  | some ds =>
    if digitLimit < ds.length then .error (.tooLong ds.length)
    else if (cs.dropWhile isInRow).all Text.isWhiteSpace then
      .ok (Binary64.signed negative (Text.ofDigits 10 ds))
    else .error .malformed

/-- The digits of a part of a decimal, which may have none. -/
def optionalGroup? (cs : List Char) : Option (List Nat) :=
  if cs.isEmpty then some [] else digitGroup? Text.digitValue? cs

/-- The exponent that follows a decimal's digits: a whole number with digits, or nothing. -/
def exponent? : Option (List Char) → Option Int
  | none => some 0
  | some cs =>
    let (negative, ds) := splitSign cs
    (digitGroup? Text.digitValue? ds).map fun ds => Binary64.signed negative (Text.ofDigits 10 ds)

/-- The double-precision number that a text is, blanks around it aside. -/
def readDecimal? (s : String) : Option Binary64 :=
  let (negative, cs) := splitSign (Text.trim Text.isWhiteSpace s.toList)
  let word := String.ofList (cs.map Char.toLower)
  if word = "inf" ∨ word = "infinity" then some (.infinite negative)
  else if word = "nan" then some .nan
  else do
    let mantissa := cs.takeWhile fun c => c != 'e' && c != 'E'
    let rest := (cs.drop mantissa.length).tail?
    let whole := mantissa.takeWhile (· != '.')
    let fraction := (mantissa.drop whole.length).tail?
    let wholeDigits ← optionalGroup? whole
    let fractionDigits ← optionalGroup? (fraction.getD [])
    let digits := wholeDigits ++ fractionDigits
    let exponent ← exponent? rest
    if digits.isEmpty then none
    else some (.ofDecimal negative (Text.ofDigits 10 digits) (exponent - fractionDigits.length))

end Number

end TokenLint
