import TokenLint.Number.Shortest

/-!
# Decimals with a given number of places

A number written with so many digits after the point, with or without a power of ten, or with so many
digits in all. The exact value is rounded; a tie goes to the even digit.

## Main definitions

* `Binary64.fixed`: So many digits after the point.
* `Binary64.scientific`: One digit before the point, so many after it, and a power of ten.
* `Binary64.general`: So many digits in all, in the form that suits the number.
-/

namespace TokenLint

namespace Binary64

/-- Digits with a point before the last `places`, without a point if there are none. -/
def pointed (places : Nat) (digits : List Char) : List Char :=
  let padded := List.replicate (places + 1 - digits.length) '0' ++ digits
  let whole := padded.take (padded.length - places)
  if places = 0 then whole else whole ++ '.' :: padded.drop (padded.length - places)

/-- The ratio `n / d` with so many digits after the point. -/
def fixedRatio (places n d : Nat) : List Char :=
  pointed places (Nat.toDigits 10 (roundDiv (n * Nat.pow 10 places) d))

/-- The digits of a positive ratio `n / d`, one before the point and so many after it, and its power of
ten. -/
def scientificRatio (places n d : Nat) : List Char × Int :=
  let power := pointOf n d - 1
  let rounded := roundDiv (n * powerDown 10 (power - places)) (d * powerUp 10 (power - places))
  if Nat.pow 10 (places + 1) ≤ rounded then (Nat.toDigits 10 (rounded / 10), power + 1)
  else (Nat.toDigits 10 rounded, power)

/-- A power of ten after a mark. -/
def powerText (power : Int) : List Char :=
  let digits := Nat.toDigits 10 power.natAbs
  'e' :: (if power < 0 then '-' else '+') :: List.replicate (2 - digits.length) '0' ++ digits

/-- A decimal without the zeros at the end of its fraction. -/
def dropZeros (cs : List Char) : List Char :=
  if cs.contains '.' then
    let short := (cs.reverse.dropWhile (· == '0')).reverse
    if short.getLast? = some '.' then short.dropLast else short
  else cs

/-- A form for the absolute values of finite numbers, with words for the others. -/
def written (form : (n d : Nat) → List Char) (x : Binary64) : List Char :=
  match x, x.ratio? with
  | _, some (_, n, d) => form n d
  | .nan, none => ['n', 'a', 'n']
  | _, none => ['i', 'n', 'f']

/-- A number of digits after which every number of double precision has zeros only, whether they are
counted from its first digit or from the point. -/
def digitBound : Nat := 1100

/-- So many digits after the point. -/
def fixed (places : Nat) (x : Binary64) : List Char :=
  x.written fun n d =>
    fixedRatio (min places digitBound) n d ++ List.replicate (places - digitBound) '0'

/-- One digit before the point, so many after it, and a power of ten. -/
def scientific (places : Nat) (x : Binary64) : List Char :=
  let shown := min places digitBound
  let zeros := List.replicate (places - digitBound) '0'
  x.written fun n d =>
    if n = 0 then pointed shown (List.replicate (shown + 1) '0') ++ zeros ++ powerText 0
    else
      let (digits, power) := scientificRatio shown n d
      pointed shown digits ++ zeros ++ powerText power

/-- So many digits in all, with a power of ten where the number is small or large. Zeros at the end of
the fraction are kept only if `keep` is set. -/
def general (keep : Bool) (precision : Nat) (x : Binary64) : List Char :=
  let precision := max (if keep then precision else min precision digitBound) 1
  let trim := if keep then id else dropZeros
  x.written fun n d =>
    let (digits, power) :=
      if n = 0 then (List.replicate precision '0', 0) else scientificRatio (precision - 1) n d
    if -4 ≤ power ∧ power < precision then
      trim (fixedRatio (precision - 1 - power).toNat n d)
    else trim (pointed (precision - 1) digits) ++ powerText power

/-- Whether a number carries a minus sign. -/
def isNegative : Binary64 → Bool
  | .finite s _ _ => s
  | .infinite s => s
  | .nan => false

end Binary64

end TokenLint
