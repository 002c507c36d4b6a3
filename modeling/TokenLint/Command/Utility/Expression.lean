import TokenLint.Command.Utility.Basic

/-!
# Expressions in arguments

The program that works out an expression, each sign of which is an argument of its own. Its values are
texts, which count as whole numbers where they look like them.

## Main definitions

* `Expression.Fault`: Why an expression has no value.
* `Expression.expr`: Works out an expression.
-/

namespace TokenLint

namespace Utility

namespace Expression

/-- Why an expression has no value. -/
inductive Fault where
  /-- An argument is missing after another. -/
  | missingAfter (arg : Bytes)
  /-- An argument is none too many. -/
  | unexpected (arg : Bytes)
  /-- A bracket is not closed after an argument. -/
  | openAfter (arg : Bytes)
  /-- A bracket closes nothing. -/
  | closing
  /-- A text is no number. -/
  | notWhole
  /-- Something is divided by zero. -/
  | divisionByZero
deriving DecidableEq, Repr

/-- How the fault reads. -/
def Fault.message : Fault → Bytes
  | missingAfter arg => "syntax error: missing argument after ".toList ++ quote arg
  | unexpected arg => "syntax error: unexpected argument ".toList ++ quote arg
  | openAfter arg => "syntax error: expecting ')' after ".toList ++ quote arg
  | closing => "syntax error: unexpected ')'".toList
  | notWhole => "non-integer argument".toList
  | divisionByZero => "division by zero".toList

/-- The number that a text is. Only a minus sign may stand before it. -/
def whole? (cs : Bytes) : Option Int := if cs.head? = some '+' then none else plainWhole? cs

/-- Whether a value counts as nothing. -/
def isNull (cs : Bytes) : Bool := cs.isEmpty || whole? cs = some 0

/-- The text of a number. -/
def ofWhole (n : Int) : Bytes := (toString n).toList

/-- What an operator makes of two values. -/
def combine (operator : String) (a b : Bytes) : Except Fault Bytes :=
  let sum (f : Int → Int → Except Fault Int) : Except Fault Bytes :=
    match whole? a, whole? b with
    | some m, some n => (f m n).map ofWhole
    | _, _ => .error .notWhole
  let order (numbers : Int → Int → Bool) (texts : Bool) : Except Fault Bytes :=
    let holds := match whole? a, whole? b with
      | some m, some n => numbers m n
      | _, _ => texts
    .ok (if holds then ['1'] else ['0'])
  match operator with
  | "+" => sum fun m n => .ok (m + n)
  | "-" => sum fun m n => .ok (m - n)
  | "*" => sum fun m n => .ok (m * n)
  | "/" => sum fun m n => if n = 0 then .error .divisionByZero else .ok (m.tdiv n)
  | "%" => sum fun m n => if n = 0 then .error .divisionByZero else .ok (m.tmod n)
  | "<" => order (fun m n => m < n) (a < b)
  | "<=" => order (fun m n => m ≤ n) (!(b < a))
  | ">" => order (fun m n => m > n) (b < a)
  | ">=" => order (fun m n => m ≥ n) (!(a < b))
  | "!=" => order (fun m n => m ≠ n) (a ≠ b)
  | "&" => .ok (if isNull a || isNull b then ['0'] else a)
  | "|" => .ok (if !isNull a then a else if !isNull b then b else ['0'])
  | _ => order (fun m n => m = n) (a = b)

/-- How close operators bind, closest first. -/
def ranks : List (List String) :=
  [["*", "/", "%"], ["+", "-"], ["<", "<=", "=", "==", "!=", ">=", ">"], ["&"], ["|"]]

/-- The arguments that were used, last one first, and those that are left. -/
structure Place where
  /-- The argument before. -/
  before : Bytes
  /-- The arguments that are left. -/
  rest : List Bytes

mutual

/-- The value of what binds no weaker than a rank. -/
def valueAt : (fuel rank : Nat) → Place → Except Fault (Bytes × Place)
  | 0, _, p => .error (.missingAfter p.before)
  | fuel + 1, rank, p => do
    let (a, p) ← match rank with
      | 0 => primary fuel p
      | below + 1 => valueAt fuel below p
    match rank with
    | 0 => return (a, p)
    | below + 1 => restAt fuel below a p

/-- The value of what follows a first operand, given the rank of the operators. -/
def restAt : (fuel rank : Nat) → Bytes → Place → Except Fault (Bytes × Place)
  | 0, _, a, p => .ok (a, p)
  | fuel + 1, rank, a, p =>
    match p.rest with
    | operator :: rest =>
      if (ranks.getD rank []).contains (String.ofList operator) then do
        let (b, p) ← valueAt fuel rank ⟨operator, rest⟩
        restAt fuel rank (← combine (String.ofList operator) a b) p
      else .ok (a, p)
    | [] => .ok (a, p)

/-- The value of an operand. -/
def primary : (fuel : Nat) → Place → Except Fault (Bytes × Place)
  | 0, p => .error (.missingAfter p.before)
  | fuel + 1, p =>
    match p.rest with
    | [] => .error (.missingAfter p.before)
    | ['('] :: rest => do
      let (a, p) ← valueAt fuel ranks.length ⟨['('], rest⟩
      match p.rest with
      | [')'] :: rest => return (a, ⟨[')'], rest⟩)
      | [] => throw (.openAfter p.before)
      | arg :: _ => throw (.unexpected arg)
    | [')'] :: _ => .error .closing
    | ['+'] :: arg :: rest => .ok (arg, ⟨arg, rest⟩)
    | arg :: rest =>
      match String.ofList arg, rest with
      | "length", cs :: rest => .ok (ofWhole cs.length, ⟨cs, rest⟩)
      | "index", cs :: chars :: rest =>
        let found := cs.findIdx? chars.contains
        .ok (ofWhole (((found.map (· + 1)).getD 0 : Nat) : Int), ⟨chars, rest⟩)
      | "substr", cs :: first :: length :: rest =>
        let part := match whole? first, whole? length with
          | some first, some length =>
            if first ≤ 0 ∨ length ≤ 0 then [] else (cs.drop (first.toNat - 1)).take length.toNat
          | _, _ => []
        .ok (part, ⟨length, rest⟩)
      | _, _ => .ok (arg, ⟨arg, rest⟩)

end

/-- Works out an expression. The exit code tells whether it is nothing. -/
def expr (who : Speaker) (args : List Bytes) : Effect :=
  let args := if args.head? = some ['-', '-'] then args.drop 1 else args
  if args.isEmpty then who.needOperand 2
  else
    match valueAt (8 * args.length + 8) ranks.length ⟨[], args⟩ with
    | .ok (a, ⟨_, []⟩) => ⟨a ++ ['\n'], [], if isNull a then 1 else 0⟩
    | .ok (_, ⟨_, arg :: _⟩) => who.complain (Fault.unexpected arg).message 2
    | .error fault => who.complain fault.message 2

end Expression

end Utility

end TokenLint
