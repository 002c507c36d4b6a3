import TokenLint.Ordered
import TokenLint.Text.Digit

/-!
# Arithmetic of shell scripts

Expressions over whole numbers of 64 bits, which wrap around. A name stands for the value of a variable,
and may be given a new one; of two operands that exclude each other, only one has that effect.

## Main definitions

* `SumSign`: A sign of an expression.
* `SumFault`: Why an expression has no value.
* `wholeOf?`: The number that a text is.
* `evaluate`: The value of an expression and what it makes of variables.
-/

namespace TokenLint

namespace Shell

/-- A sign of an expression. -/
inductive SumSign where
  /-- A number. -/
  | number (n : Int)
  /-- The name of a variable. -/
  | name (s : String)
  /-- An operator. -/
  | operator (s : String)
  /-- Anything else. -/
  | unknown
deriving DecidableEq, Repr

/-- Why an expression has no value. -/
inductive SumFault where
  /-- Something is divided by zero. -/
  | divisionByZero
  /-- Something else is expected here. -/
  | expecting (what : String)
  /-- The value of a variable is no number. -/
  | illegalNumber (text : List Char)
deriving DecidableEq, Repr

/-- The complaint about a fault in an expression. -/
def SumFault.message (expression : List Char) : SumFault → List Char
  | .divisionByZero => "arithmetic expression: division by zero: \"".toList ++ expression ++ ['"']
  | .expecting what => s!"arithmetic expression: expecting {what}: \"".toList ++ expression ++ ['"']
  | .illegalNumber text => "Illegal number: ".toList ++ text

/-- Half the number of the values of 64 bits. -/
def wordHalf : Int := 9223372036854775808

/-- A number taken into the range of 64 bits, where it wraps around. -/
def wrap (n : Int) : Int := (n + wordHalf) % (2 * wordHalf) - wordHalf

/-- A number taken into the range of 64 bits, where it stops at the ends. -/
def clamp (n : Int) : Int := max (-wordHalf) (min (wordHalf - 1) n)

/-- Whether a character is a blank. -/
def isBlank (c : Char) : Bool := " \t\n\r\x0b\x0c".toList.contains c

/-- The number at the start of a text, in the base that its first digits tell, and what follows. -/
def numeralAt (cs : List Char) : Int × List Char :=
  let row (base : Nat) (value? : Char → Option Nat) (cs : List Char) : Int × List Char :=
    let digits := cs.takeWhile fun c => (value? c).any (· < base)
    (clamp (Text.ofDigits base (digits.filterMap value?) : Nat), cs.drop digits.length)
  match cs with
  | '0' :: x :: d :: rest =>
    if (x = 'x' ∨ x = 'X') ∧ (Text.hexDigit? d).isSome then row 16 Text.hexDigit? (d :: rest)
    else row 8 Text.asciiDigit? cs
  | '0' :: _ => row 8 Text.asciiDigit? cs
  | _ => row 10 Text.asciiDigit? cs

/-- The number that a text is, which may have a sign and blanks around it. -/
def wholeOf? (cs : List Char) : Option Int :=
  let cs := cs.dropWhile isBlank
  let (negative, cs) := match cs with
    | '-' :: rest => (true, rest)
    | '+' :: rest => (false, rest)
    | _ => (false, cs)
  let (n, rest) := numeralAt cs
  if cs.head?.any Char.isDigit && rest.all isBlank then some (if negative then -n else n)
  else none

/-- The operators, longer ones first. -/
def sumOperators : List String :=
  ["<<=", ">>=", "<<", ">>", "<=", ">=", "==", "!=", "&&", "||", "+=", "-=", "*=", "/=", "%=", "&=", "^=",
    "|=", "+", "-", "*", "/", "%", "<", ">", "&", "^", "|", "!", "~", "?", ":", "=", "(", ")"]

/-- The signs of an expression. -/
def sumSignsFrom : (fuel : Nat) → List Char → List SumSign
  | 0, _ => []
  | _, [] => []
  | fuel + 1, c :: cs =>
    if isBlank c then sumSignsFrom fuel cs
    else if c.isDigit then
      let (n, rest) := numeralAt (c :: cs)
      .number n :: sumSignsFrom fuel rest
    else if c.isAlpha || c == '_' then
      let name := (c :: cs).takeWhile fun c => c.isAlphanum || c == '_'
      .name (String.ofList name) :: sumSignsFrom fuel ((c :: cs).drop name.length)
    else match sumOperators.find? fun s => s.toList.isPrefixOf (c :: cs) with
      | some operator => .operator operator :: sumSignsFrom fuel ((c :: cs).drop operator.length)
      | none => [.unknown]

/-- The rank of an operator of two operands that always counts both. A lower one binds closer. -/
def rank? (operator : String) : Option Nat :=
  Ordered.get? operator [
    ("*", 0), ("/", 0), ("%", 0), ("+", 1), ("-", 1), ("<<", 2), (">>", 2), ("<", 3), ("<=", 3), (">", 3),
    (">=", 3), ("==", 4), ("!=", 4), ("&", 5), ("^", 6), ("|", 7)]

/-- The bits of a number. -/
def bitsOf (n : Int) : Nat := (n % (2 * wordHalf)).toNat

/-- The truth of something as a number. -/
def truth (b : Bool) : Int := if b then 1 else 0

/-- What an operator makes of two numbers. -/
def combine (operator : String) (a b : Int) : Except SumFault Int :=
  let shift := (b % 64).toNat
  match operator with
  | "*" => .ok (wrap (a * b))
  | "/" => if b = 0 then .error .divisionByZero else .ok (wrap (a.tdiv b))
  | "%" => if b = 0 then .error .divisionByZero else .ok (a.tmod b)
  | "+" => .ok (wrap (a + b))
  | "-" => .ok (wrap (a - b))
  | "<<" => .ok (wrap (a * (Nat.pow 2 shift : Nat)))
  | ">>" => .ok (Int.fdiv a (Nat.pow 2 shift : Nat))
  | "<" => .ok (truth (a < b))
  | "<=" => .ok (truth (a ≤ b))
  | ">" => .ok (truth (a > b))
  | ">=" => .ok (truth (a ≥ b))
  | "==" => .ok (truth (a = b))
  | "!=" => .ok (truth (a ≠ b))
  | "&" => .ok (wrap ((bitsOf a).land (bitsOf b) : Nat))
  | "^" => .ok (wrap ((bitsOf a).xor (bitsOf b) : Nat))
  | _ => .ok (wrap ((bitsOf a).lor (bitsOf b) : Nat))

/-- What is known while an expression is read: the signs that are left and the values of variables. -/
structure Summing where
  /-- The signs that are left. -/
  signs : List SumSign
  /-- The values that variables have been given. -/
  given : List (String × Int)
  /-- The text of a variable. -/
  lookup : String → List Char

/-- Reading an expression. -/
abbrev Sum := StateT Summing (Except SumFault)

/-- The next sign, which is taken away. -/
def Sum.next : Sum (Option SumSign) := do
  let s ← get
  set { s with signs := s.signs.drop 1 }
  return s.signs.head?

/-- Takes an operator away, if it is next. -/
def Sum.take (operator : String) : Sum Bool := do
  let s ← get
  if s.signs.head? = some (.operator operator) then
    set { s with signs := s.signs.drop 1 }
    return true
  return false

/-- The value of a variable. -/
def Sum.valueOf (name : String) : Sum Int := do
  let s ← get
  match Ordered.get? name s.given with
  | some n => return n
  | none =>
    let text := s.lookup name
    if text.isEmpty then return 0
    match wholeOf? text with
    | some n => return n
    | none => throw (.illegalNumber text)

mutual

/-- An operand with the signs in front of it. Where `idle` is set, no variable matters. -/
def operand (idle : Bool) : (fuel : Nat) → Sum Int
  | 0 => throw (.expecting "primary")
  | fuel + 1 => do
    match ← Sum.next with
    | some (.number n) => return n
    | some (.name s) => if idle then return 0 else Sum.valueOf s
    | some (.operator "(") =>
      let n ← assignment idle fuel
      if ← Sum.take ")" then return n else throw (.expecting "')'")
    | some (.operator "+") => operand idle fuel
    | some (.operator "-") => return wrap (-(← operand idle fuel))
    | some (.operator "!") => return truth ((← operand idle fuel) = 0)
    | some (.operator "~") => return -(← operand idle fuel) - 1
    | _ => throw (.expecting "primary")

/-- Operands and the operators between them that bind closer than a rank. -/
def operands (idle : Bool) (limit : Nat) : (fuel : Nat) → Sum Int
  | 0 => throw (.expecting "primary")
  | fuel + 1 => do
    let a ← operand idle fuel
    operandsRest idle limit fuel a

/-- The rest of operands, after the first of them. -/
def operandsRest (idle : Bool) (limit : Nat) : (fuel : Nat) → Int → Sum Int
  | 0, a => return a
  | fuel + 1, a => do
    match (← get).signs.head? with
    | some (.operator s) =>
      match rank? s with
      | some rank =>
        if rank < limit then
          let _ ← Sum.next
          let b ← operands idle rank fuel
          if idle then operandsRest idle limit fuel b
          else
            match combine s a b with
            | .ok n => operandsRest idle limit fuel n
            | .error fault => throw fault
        else return a
      | none => return a
    | _ => return a

/-- Operands that all have to be true. -/
def conjunction (idle : Bool) : (fuel : Nat) → Sum Int
  | 0 => throw (.expecting "primary")
  | fuel + 1 => do
    let a ← operands idle 8 fuel
    if ← Sum.take "&&" then
      let b ← conjunction (idle || a = 0) fuel
      return truth (a ≠ 0 && b ≠ 0)
    return a

/-- Operands of which one has to be true. -/
def disjunction (idle : Bool) : (fuel : Nat) → Sum Int
  | 0 => throw (.expecting "primary")
  | fuel + 1 => do
    let a ← conjunction idle fuel
    if ← Sum.take "||" then
      let b ← disjunction (idle || a ≠ 0) fuel
      return truth (a ≠ 0 || b ≠ 0)
    return a

/-- An operand, or a choice of two by a third. -/
def alternative (idle : Bool) : (fuel : Nat) → Sum Int
  | 0 => throw (.expecting "primary")
  | fuel + 1 => do
    let a ← disjunction idle fuel
    if ← Sum.take "?" then
      let b ← assignment (idle || a = 0) fuel
      if !(← Sum.take ":") then throw (.expecting "':'")
      let c ← alternative (idle || a ≠ 0) fuel
      return if a ≠ 0 then b else c
    return a

/-- A whole expression, which may give a variable its value. -/
def assignment (idle : Bool) : (fuel : Nat) → Sum Int
  | 0 => throw (.expecting "primary")
  | fuel + 1 => do
    match (← get).signs with
    | .name s :: .operator sign :: rest =>
      let first := String.ofList sign.toList.dropLast
      let updates := sign.toList.getLast? = some '=' && sumOperators.contains first && (rank? sign).isNone
      if sign = "=" || updates then
        modify ({ · with signs := rest })
        let b ← assignment idle fuel
        if idle then return b
        let n ← if sign = "=" then pure b else
          match combine first (← Sum.valueOf s) b with
          | .ok n => pure n
          | .error fault => throw fault
        modify fun state => { state with given := Ordered.put s n state.given }
        return n
      else alternative idle fuel
    | _ => alternative idle fuel

end

/-- The value of an expression and the values that it gives to variables, whose texts can be looked up. -/
def evaluate (lookup : String → List Char) (expression : List Char) :
    Except SumFault (Int × List (String × Int)) := do
  let signs := sumSignsFrom (expression.length + 1) expression
  let (n, s) ← (assignment false (16 * signs.length + 16)).run ⟨signs, [], lookup⟩
  if s.signs.isEmpty then return (n, s.given) else throw (.expecting "EOF")

end Shell

end TokenLint
