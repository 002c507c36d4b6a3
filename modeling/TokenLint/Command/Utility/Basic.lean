import TokenLint.Number.Reading
import TokenLint.Text.Line

/-!
# Small programs

The programs that scripts call most: each makes an output, a complaint and an exit code out of its
arguments and its input. What such a program reads and writes is bytes, each of which is kept as the
character of its number.

## Main definitions

* `Bytes`: A text of bytes.
* `Effect`: What a program leaves.
* `Speaker`: Who complains, a part of a shell or a program of its own.
* `seq`, `basename`, `dirname`, `head`, `tail`, `wc`: Programs.
-/

namespace TokenLint

/-- A text of bytes, each as the character of its number. -/
abbrev Bytes := List Char

/-- The bytes of a text. -/
def Bytes.ofString (s : String) : Bytes := s.toUTF8.toList.map fun b => Char.ofNat b.toNat

/-- The bytes as numbers. -/
def Bytes.toNumbers (cs : Bytes) : List UInt8 := cs.map fun c => UInt8.ofNat c.toNat

/-- Numbers as bytes. -/
def Bytes.ofNumbers (bytes : List UInt8) : Bytes := bytes.map fun b => Char.ofNat b.toNat

namespace Utility

/-- What a program leaves. -/
structure Effect where
  /-- What it wrote. -/
  out : Bytes
  /-- What it complained of. -/
  err : Bytes
  /-- Its exit code. -/
  status : Nat
deriving DecidableEq, Repr

namespace Effect

/-- Something was written, and all is well. -/
def wrote (out : Bytes) : Effect := ⟨out, [], 0⟩

/-- Nothing is written, and the exit code tells the answer. -/
def answered (yes : Bool) : Effect := ⟨[], [], if yes then 0 else 1⟩

end Effect

/-- Who complains. -/
structure Speaker where
  /-- The name that complaints begin with. -/
  title : Bytes
  /-- Whether it is a part of a shell. -/
  builtin : Bool
deriving DecidableEq, Repr

/-- A line of complaint. -/
def Speaker.line (who : Speaker) (message : Bytes) : Bytes :=
  who.title ++ ": ".toList ++ message ++ ['\n']

/-- An argument as programs quote it. -/
def quote (arg : Bytes) : Bytes := Bytes.ofString "‘" ++ arg ++ Bytes.ofString "’"

/-- A complaint, after which nothing else is done. -/
def Speaker.complain (who : Speaker) (message : Bytes) (status : Nat) : Effect :=
  ⟨[], who.line message, status⟩

/-- A complaint of a program about how it is called. -/
def Speaker.refuse (who : Speaker) (message : Bytes) (status : Nat) : Effect :=
  let advice := "Try '".toList ++ who.title ++ " --help' for more information.\n".toList
  ⟨[], who.line message ++ advice, status⟩

/-- The complaint of a program that needs an operand. -/
def Speaker.needOperand (who : Speaker) (status : Nat) : Effect :=
  who.refuse "missing operand".toList status

/-- A whole number with a sign or without one. -/
def plainWhole? (cs : Bytes) : Option Int :=
  let (negative, digits) := Number.splitSign cs
  match digits.mapM Text.asciiDigit? with
  | some (d :: ds) =>
    let n : Int := (Text.ofDigits 10 (d :: ds) : Nat)
    some (if negative then -n else n)
  | _ => none

/-- Numbers from one to another in steps. -/
def progression (step last : Int) : (fuel : Nat) → (first : Int) → List Int
  | 0, _ => []
  | fuel + 1, n =>
    if (0 ≤ step ∧ last < n) ∨ (step < 0 ∧ n < last) then []
    else n :: progression step last fuel (n + step)

/-- A row of numbers, one to a line or with something else between them. -/
def seq (who : Speaker) (args : List Bytes) : Effect :=
  let (between, args) : Bytes × List Bytes := match args with
    | ['-', 's'] :: between :: rest => (between, rest)
    | ('-' :: 's' :: between) :: rest => (between, rest)
    | _ => (['\n'], args)
  match args with
  | [] => who.needOperand 1
  | _ :: _ :: _ :: extra :: _ => who.refuse ("extra operand ".toList ++ quote extra) 1
  | _ =>
    match args.find? (plainWhole? · |>.isNone) with
    | some arg => who.refuse ("invalid floating point argument: ".toList ++ quote arg) 1
    | none =>
      let (first, step, last) : Int × Int × Int := match args.filterMap plainWhole? with
        | [last] => (1, 1, last)
        | [first, last] => (first, 1, last)
        | [first, step, last] => (first, step, last)
        | _ => (1, 1, 0)
      let row := progression step last ((last - first).natAbs + 1) first
      let shown := ((row.map fun n => (toString n).toList).intersperse between).flatten
      .wrote (if row.isEmpty then [] else shown ++ ['\n'])

/-- A name without the slashes at its end. -/
def withoutSlashes (name : Bytes) : Bytes := (name.reverse.dropWhile (· == '/')).reverse

/-- The last name of a path, without an ending. -/
def basename (who : Speaker) (args : List Bytes) : Effect :=
  match args with
  | [] => who.needOperand 1
  | path :: more =>
    let kept := withoutSlashes path
    if kept.isEmpty then .wrote (path.take 1 ++ ['\n'])
    else
      let name := (kept.reverse.takeWhile (· != '/')).reverse
      let ending := more.headD []
      let cut := ending.isSuffixOf name && ending.length < name.length
      .wrote ((if cut then name.take (name.length - ending.length) else name) ++ ['\n'])

/-- The path of the directory that a path is in. -/
def dirname (who : Speaker) (args : List Bytes) : Effect :=
  match args with
  | [] => who.needOperand 1
  | _ =>
    let one (path : Bytes) : Bytes :=
      let parent := (withoutSlashes path).reverse.dropWhile (· != '/')
      let kept := (parent.dropWhile (· == '/')).reverse
      if !kept.isEmpty then kept else if path.head? = some '/' then ['/'] else ['.']
    .wrote (args.flatMap fun path => one path ++ ['\n'])

/-- The lines of an input, each with its end. -/
def linesOf (input : Bytes) : List Bytes :=
  let rows := Text.splitOn '\n' input
  (rows.dropLast.map (· ++ ['\n'])) ++ (rows.getLast?.toList.filter (!·.isEmpty))

/-- How many lines the arguments of a program ask for. -/
def lineCount (args : List Bytes) : Nat × List Bytes :=
  match args with
  | ['-', 'n'] :: count :: rest => (((plainWhole? count).map Int.natAbs).getD 10, rest)
  | ('-' :: 'n' :: count) :: rest => (((plainWhole? count).map Int.natAbs).getD 10, rest)
  | ('-' :: count) :: rest => (((plainWhole? count).map Int.natAbs).getD 10, rest)
  | _ => (10, args)

/-- The first lines of an input. -/
def head (args : List Bytes) (input : Bytes) : Effect :=
  .wrote ((linesOf input).take (lineCount args).1).flatten

/-- The last lines of an input. -/
def tail (args : List Bytes) (input : Bytes) : Effect :=
  let rows := linesOf input
  .wrote (rows.drop (rows.length - (lineCount args).1)).flatten

/-- How many lines, words and bytes an input has. -/
def wc (args : List Bytes) (input : Bytes) : Effect :=
  let isBlank (c : Char) : Bool := c == ' ' || ('\t' ≤ c && c ≤ '\r')
  let rows := input.count '\n'
  let words := ((input.zip (' ' :: input)).filter fun (c, before) => !isBlank c && isBlank before).length
  let shown (n : Nat) : Bytes := (toString n).toList
  let padded (n : Nat) : Bytes := List.replicate (7 - (shown n).length) ' ' ++ shown n
  .wrote ((match args.head?.map String.ofList with
    | some "-l" => shown rows
    | some "-w" => shown words
    | some "-c" | some "-m" => shown input.length
    | _ => padded rows ++ [' '] ++ padded words ++ [' '] ++ padded input.length) ++ ['\n'])

end Utility

end TokenLint
