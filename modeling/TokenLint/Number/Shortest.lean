import TokenLint.Number.Binary64

/-!
# Shortest decimals

The text of a double-precision number: the fewest decimal digits that read back as the same number, and
of those the nearest to it. The numbers that read back as a given one form an interval around it, whose
ends belong to it when the mantissa is even. For one digit, two, and so on, the two neighbours of the
number on the grid of that many digits are tried; if any grid point lies in the interval, one of the two
does.

## Main definitions

* `Binary64.shortest`: The digits of a positive number and the power of ten of the last one.
* `DecimalStyle`: Where positional writing ends, and the words for what is no finite number.
* `Binary64.render`: The text of a number in a style.
* `Binary64.text`: The text in the plain style.
-/

namespace TokenLint

/-- How a decimal is written. -/
structure DecimalStyle where
  /-- Positional writing is for numbers with more than this many places before the first digit. -/
  leastPoint : Int
  /-- Positional writing is for numbers with at most this many places before the point. -/
  greatestPoint : Int
  /-- The word for an infinity. -/
  infinityWord : String
  /-- The word for what is no number. -/
  nanWord : String

/-- Positional from a ten-thousandth up to sixteen places before the point. -/
def DecimalStyle.plain : DecimalStyle := ⟨-4, 16, "inf", "nan"⟩

/-- As in `plain`, with the words that data formats use. -/
def DecimalStyle.data : DecimalStyle := ⟨-4, 16, "Infinity", "NaN"⟩

namespace Binary64

/-- The number of places before the point of the positive ratio `n / d`: the least `p` with `n / d` below
ten to the `p`. -/
def pointOf (n d : Nat) : Int :=
  if d ≤ n then ((Nat.toDigits 10 (n / d)).length : Int)
  else 1 - ((Nat.toDigits 10 ((d + n - 1) / n - 1)).length : Int)

/-- The interval of reals that round to a positive number, counted in quarters of its last binary digit:
the lower end, the number itself and the upper end. Below a power of two the numbers lie closer. -/
def quarters (m : Nat) (e : Int) : Nat × Nat × Nat :=
  let low := if m = leastFull ∧ leastExponent < e then 4 * m - 1 else 4 * m - 2
  (low, 4 * m, 4 * m + 2)

/-- The point of the grid of multiples of ten to the `k` that reads back as the number and is nearest to
it, if the grid has one. -/
def onGrid? (m : Nat) (e k : Int) : Option Nat :=
  let (low, middle, high) := quarters m e
  let scale := powerUp 2 (e - 2) * powerDown 10 k
  let step := powerDown 2 (e - 2) * powerUp 10 k
  let inside (c : Nat) : Bool :=
    if m % 2 = 0 then low * scale ≤ c * step && c * step ≤ high * scale
    else low * scale < c * step && c * step < high * scale
  let below := middle * scale / step
  match inside below && 0 < below, inside (below + 1) with
  | true, true =>
    if roundDiv (middle * scale) step = below then some below else some (below + 1)
  | true, false => some below
  | false, true => some (below + 1)
  | false, false => none

/-- The shortest decimal that reads back as a positive number: its digits, and the number of places
before the point. -/
def shortest (m : Nat) (e : Int) : List Char × Int :=
  let point := pointOf (m * powerUp 2 e) (powerDown 2 e)
  let tries := (List.range 17).findSome? fun i =>
    let k : Int := point - ((i : Nat) + 1 : Nat)
    (onGrid? m e k).map fun c => (Nat.toDigits 10 c, k)
  let (digits, k) := tries.getD (['0'], 0)
  ((digits.reverse.dropWhile (· == '0')).reverse, digits.length + k)

/-- Digits with a point after the first `point` places, in a style. -/
def layOut (style : DecimalStyle) (digits : List Char) (point : Int) : List Char :=
  let zeros (n : Int) : List Char := List.replicate n.toNat '0'
  if style.leastPoint < point ∧ point ≤ style.greatestPoint then
    if point ≤ 0 then '0' :: '.' :: zeros (-point) ++ digits
    else if digits.length ≤ point then digits ++ zeros (point - digits.length) ++ ['.', '0']
    else digits.take point.toNat ++ '.' :: digits.drop point.toNat
  else
    let exponent := point - 1
    let places := Nat.toDigits 10 exponent.natAbs
    let fraction := if digits.length ≤ 1 then [] else '.' :: digits.drop 1
    digits.take 1 ++ fraction ++ 'e' :: (if exponent < 0 then '-' else '+') ::
      (List.replicate (2 - places.length) '0' ++ places)

/-- The text of a number in a style. -/
def render (style : DecimalStyle) : Binary64 → String
  | .nan => style.nanWord
  | .infinite s => (if s then "-" else "") ++ style.infinityWord
  | .finite s m e =>
    let body :=
      if m = 0 then ['0', '.', '0']
      else
        let (digits, point) := shortest m e
        layOut style digits point
    String.ofList (if s then '-' :: body else body)

/-- The text of a number in the plain style. -/
def text (x : Binary64) : String := x.render .plain

end Binary64

end TokenLint
