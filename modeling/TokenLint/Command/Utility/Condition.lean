import TokenLint.Command.Utility.Basic

/-!
# Conditions

The program whose exit code tells whether a condition holds: about texts, whole numbers and files, joined
by signs for "and", "or" and "not". An argument that could be a sign is one only where the arguments that
follow admit it.

## Main definitions

* `FileAnswer`: What is asked about files.
* `Condition.test`: Tells whether a condition holds.
-/

namespace TokenLint

namespace Utility

namespace Condition

/-- What the signs about one operand are. -/
def unarySigns : List String :=
  ["-r", "-w", "-x", "-e", "-f", "-d", "-c", "-b", "-p", "-u", "-g", "-k", "-s", "-t", "-z", "-n", "-h",
    "-O", "-G", "-L", "-S"]

/-- What the signs about two operands are. -/
def binarySigns : List String :=
  ["=", "!=", "<", ">", "-eq", "-ne", "-ge", "-gt", "-le", "-lt", "-nt", "-ot", "-ef"]

/-- The signs that join conditions. -/
def joiningSigns : List String := ["!", "-a", "-o", "(", ")"]

/-- Whether an argument is one of some signs. -/
def among (signs : List String) (arg : Bytes) : Bool := signs.contains (String.ofList arg)

/-- Whether the first of some arguments stands for itself although it could be a sign about the next. -/
def isOperand : List Bytes → Bool
  | _ :: next :: _ :: _ => among binarySigns next
  | [_, _] => false
  | _ => true

/-- The sign that the first of some arguments is. -/
def signAt? (args : List Bytes) : Option String :=
  match args with
  | [] => none
  | arg :: rest =>
    if among unarySigns arg then if isOperand args then none else some (String.ofList arg)
    else if arg = ['('] then if rest.isEmpty then none else some "("
    else if among binarySigns arg || among joiningSigns arg then some (String.ofList arg)
    else none

/-- What is wrong with a condition. -/
inductive Complaint where
  /-- An argument is no whole number. -/
  | notWhole (arg : Bytes)
  /-- A sign has no operand. -/
  | wantsArgument (sign : String)
  /-- An argument is no sign where one has to be. -/
  | unexpected (arg : Bytes)
  /-- A bracket is not closed. -/
  | openBracket
deriving DecidableEq, Repr

/-- How a complaint about some arguments reads. -/
def Complaint.message (who : Speaker) (args : List Bytes) : Complaint → Bytes
  | notWhole arg =>
    if who.builtin then "Illegal number: ".toList ++ arg else "invalid integer ".toList ++ quote arg
  | fault =>
    if !who.builtin then
      match args with
      | [_, arg] => "missing argument after ".toList ++ quote arg
      | _ :: arg :: _ => quote arg ++ ": binary operator expected".toList
      | _ => "missing argument".toList
    else match fault with
      | wantsArgument sign => (sign ++ ": argument expected").toList
      | unexpected arg => arg ++ ": unexpected operator".toList
      | _ => "closing paren expected".toList

/-- The whole number that an argument is. -/
def wholeOf (arg : Bytes) : Except Complaint Int :=
  let isBlank (c : Char) : Bool := c == ' ' || ('\t' ≤ c && c ≤ '\r')
  let trimmed := ((arg.dropWhile isBlank).reverse.dropWhile isBlank).reverse
  match plainWhole? trimmed with
  | some n => .ok n
  | none => .error (.notWhole arg)

/-- Whether two operands are as a sign says. -/
def compare (sign : String) (a b : Bytes) : Except Complaint Bool := do
  let numbers (holds : Int → Int → Bool) : Except Complaint Bool := do
    return holds (← wholeOf a) (← wholeOf b)
  match sign with
  | "=" => return a = b
  | "!=" => return a ≠ b
  | "<" => return a < b
  | ">" => return b < a
  | "-eq" => numbers fun a b => a = b
  | "-ne" => numbers fun a b => a ≠ b
  | "-ge" => numbers fun a b => a ≥ b
  | "-gt" => numbers fun a b => a > b
  | "-le" => numbers fun a b => a ≤ b
  | "-lt" => numbers fun a b => a < b
  | _ => return false

/-- The answers to questions about files: what a sign says about a path. -/
abbrev FileAnswer := String → Bytes → Bool

/-- Whether an operand is as a sign says. -/
def examine (files : FileAnswer) (sign : String) (arg : Bytes) : Except Complaint Bool :=
  match sign with
  | "-z" => .ok arg.isEmpty
  | "-n" => .ok !arg.isEmpty
  | "-t" => (wholeOf arg).map fun _ => false
  | _ => .ok (files sign arg)

mutual

/-- The answer to conditions of which one has to hold, and the arguments from the last one used on. -/
def anyOf (files : FileAnswer) : (fuel : Nat) → (sign : Option String) → List Bytes →
    Except Complaint (Bool × List Bytes)
  | 0, _, args => .ok (false, args)
  | fuel + 1, sign, args => do
    let (a, rest) ← allOf files fuel sign args
    if signAt? (rest.drop 1) = some "-o" then
      let (b, rest) ← anyOf files fuel (signAt? (rest.drop 2)) (rest.drop 2)
      return (a || b, rest)
    return (a, rest)

/-- The answer to conditions that all have to hold. -/
def allOf (files : FileAnswer) : (fuel : Nat) → (sign : Option String) → List Bytes →
    Except Complaint (Bool × List Bytes)
  | 0, _, args => .ok (false, args)
  | fuel + 1, sign, args => do
    let (a, rest) ← turned files fuel sign args
    if signAt? (rest.drop 1) = some "-a" then
      let (b, rest) ← allOf files fuel (signAt? (rest.drop 2)) (rest.drop 2)
      return (a && b, rest)
    return (a, rest)

/-- The answer to a condition that may be turned round. -/
def turned (files : FileAnswer) : (fuel : Nat) → (sign : Option String) → List Bytes →
    Except Complaint (Bool × List Bytes)
  | 0, _, args => .ok (false, args)
  | fuel + 1, sign, args =>
    if sign = some "!" then do
      let rest := args.drop 1
      if rest.isEmpty then return (true, args)
      let (a, rest) ← turned files fuel (signAt? rest) rest
      return (!a, rest)
    else single files fuel sign args

/-- The answer to one condition. -/
def single (files : FileAnswer) : (fuel : Nat) → (sign : Option String) → List Bytes →
    Except Complaint (Bool × List Bytes)
  | 0, _, args => .ok (false, args)
  | fuel + 1, sign, args =>
    match sign, args with
    | some "(", _ :: rest => do
      if signAt? rest = some ")" then return (false, rest)
      let (a, rest) ← anyOf files fuel (signAt? rest) rest
      if signAt? (rest.drop 1) = some ")" then return (a, rest.drop 1)
      else throw .openBracket
    | _, [] => .ok (false, [])
    | _, arg :: rest =>
      match sign.filter unarySigns.contains, rest with
      | some unary, [] => .error (.wantsArgument unary)
      | some unary, operand :: more => do
        return (← examine files unary operand, operand :: more)
      | none, _ =>
        match (signAt? rest).filter binarySigns.contains, rest with
        | some binary, _ :: operand :: more => do
          return (← compare binary arg operand, operand :: more)
        | some binary, _ => .error (.wantsArgument binary)
        | none, _ => .ok (!arg.isEmpty, args)

end

/-- The answer to some arguments. The first that follows a whole condition is none of it. -/
def answer (files : FileAnswer) (plain : Bool) (args : List Bytes) : Except Complaint Bool := do
  let sign := if plain then none else signAt? args
  let (a, rest) ← anyOf files (4 * args.length + 4) sign args
  match rest with
  | last :: _ :: _ => throw (.unexpected last)
  | _ => return a

/-- The answer to some arguments, of which three or four are first looked at as a whole. -/
def decide (files : FileAnswer) : List Bytes → Except Complaint Bool
  | [] => .ok false
  | first :: rest => do
    let args := first :: rest
    if args.length = 3 && (rest.head?.any (among binarySigns)) then answer files true args
    else if (args.length = 3 || args.length = 4) && first = ['('] && args.getLast? = some [')'] then
      answer files false rest.dropLast
    else if (args.length = 3 || args.length = 4) && first = ['!'] then return !(← decide files rest)
    else answer files false args

/-- Tells whether a condition holds. In brackets, it has to be closed. -/
def test (who : Speaker) (files : FileAnswer) (bracketed : Bool) (args : List Bytes) : Effect :=
  if bracketed && args.getLast? != some [']'] then
    who.complain ("missing ".toList ++ if who.builtin then [']'] else quote [']']) 2
  else
    let args := if bracketed then args.dropLast else args
    match decide files args with
    | .ok yes => .answered yes
    | .error complaint => who.complain (complaint.message who args) 2

end Condition

end Utility

end TokenLint
