/-!
# Binary floating point numbers

Double-precision numbers as data: a sign, a whole mantissa and a power of two, so that every statement
about them is one about whole numbers. A ratio is rounded to the nearest such number and a tie goes to
the even mantissa.

## Main definitions

* `roundDiv`: The whole number nearest to a ratio, the even one of two.
* `Binary64`: The numbers.
* `Binary64.ofRatio`: The number nearest to a ratio.
* `Binary64.ofDecimal`: The number nearest to a decimal.
* `Binary64.whole?`: The whole number that a number is, if it is one.
-/

namespace TokenLint

/-- The whole number nearest to `n / d`; of two equally near ones the even one. -/
def roundDiv (n d : Nat) : Nat :=
  let q := n / d
  let r := n % d
  if 2 * r < d then q
  else if d < 2 * r then q + 1
  else if q % 2 = 0 then q else q + 1

/-- A double-precision number: `mantissa` times two to the `exponent`, an infinity, or no number. -/
inductive Binary64 where
  /-- A finite number. The two zeros differ in their sign. -/
  | finite (negative : Bool) (mantissa : Nat) (exponent : Int)
  /-- An infinity. -/
  | infinite (negative : Bool)
  /-- The result of an operation without one. -/
  | nan
deriving DecidableEq, Repr

namespace Binary64

/-- The number of binary digits of a mantissa. -/
def precision : Nat := 53

/-- The numerator of `b` to the `e`. -/
def powerUp (b : Nat) (e : Int) : Nat := b.pow e.toNat

/-- The denominator of `b` to the `e`. -/
def powerDown (b : Nat) (e : Int) : Nat := b.pow (-e).toNat

/-- The least mantissa that fills its digits. -/
def leastFull : Nat := powerUp 2 (precision - 1 : Nat)

/-- The number that no mantissa reaches. -/
def mantissaLimit : Nat := powerUp 2 precision

/-- The exponent of the smallest numbers. -/
def leastExponent : Int := -1074

/-- The exponent of the greatest numbers. -/
def greatestExponent : Int := 971

/-- The zero of a sign. -/
def zeroOf (negative : Bool) : Binary64 :=
  .finite negative 0 leastExponent

/-- The mantissa that a ratio rounds to when it is counted in steps of two to the `exponent`. -/
def mantissaAt (n d : Nat) (exponent : Int) : Nat :=
  roundDiv (n * powerDown 2 exponent) (d * powerUp 2 exponent)

/-- The exponent at which the mantissa of a positive ratio fills its digits, or the least one. -/
def exponentFor (n d : Nat) : Int :=
  let guess : Int := (Nat.log2 n : Int) - Nat.log2 d - (precision - 1 : Nat)
  let low := guess - 1
  let fits := n * powerDown 2 low < mantissaLimit * (d * powerUp 2 low)
  max leastExponent (if fits then low else guess)

/-- The number nearest to the ratio `n / d` with a sign. -/
def ofRatio (negative : Bool) (n d : Nat) : Binary64 :=
  if n = 0 then zeroOf negative
  else
    let exponent := exponentFor n d
    let mantissa := mantissaAt n d exponent
    let (mantissa, exponent) :=
      if mantissa = mantissaLimit then (leastFull, exponent + 1) else (mantissa, exponent)
    if greatestExponent < exponent then .infinite negative
    else .finite negative mantissa exponent

/-- The number nearest to `coefficient` times ten to the `exponent`, with a sign. -/
def ofDecimal (negative : Bool) (coefficient : Nat) (exponent : Int) : Binary64 :=
  let size : Int := (Nat.toDigits 10 coefficient).length + exponent
  if coefficient = 0 ∨ size < -400 then zeroOf negative
  else if 400 < size then .infinite negative
  else ofRatio negative (coefficient * powerUp 10 exponent) (powerDown 10 exponent)

/-- The number nearest to a whole number. -/
def ofInt (i : Int) : Binary64 :=
  ofRatio (i < 0) i.natAbs 1

/-- Whether the number is a zero of either sign. -/
def isZero : Binary64 → Bool
  | .finite _ m _ => m == 0
  | _ => false

/-- A whole number with a sign. -/
def signed (negative : Bool) (n : Nat) : Int :=
  if negative then -(n : Int) else n

/-- The whole number next to a finite number on the side of zero. -/
def truncate? : Binary64 → Option Int
  | .finite s m e => some (signed s (m * powerUp 2 e / powerDown 2 e))
  | _ => none

/-- The whole number that a number is. -/
def whole? : Binary64 → Option Int
  | .finite s m e =>
    if m * powerUp 2 e % powerDown 2 e = 0 then some (signed s (m * powerUp 2 e / powerDown 2 e))
    else none
  | _ => none

/-- The sign, the numerator and the denominator of a finite number. -/
def ratio? : Binary64 → Option (Bool × Nat × Nat)
  | .finite s m e => some (s, m * powerUp 2 e, powerDown 2 e)
  | _ => none

end Binary64

end TokenLint
