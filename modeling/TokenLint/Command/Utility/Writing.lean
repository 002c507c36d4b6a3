import TokenLint.Command.Utility.Basic
import TokenLint.Log.Template

/-!
# Programs that write their arguments

One writes its arguments as they are, the other puts them into the places of a format, which is used
again as long as there are arguments. Both know escapes, and each comes in two kinds: as a part of a shell
and as a program of its own.

## Main definitions

* `unescape`: A text with its escapes resolved.
* `echo`: Writes its arguments.
* `printf`: Writes its arguments in the places of a format.
-/

namespace TokenLint

namespace Utility

/-- Which escapes a text may have. -/
structure EscapeStyle where
  /-- Whether an octal number may begin with an additional zero, and ends the text if it is a `c`. -/
  argument : Bool
  /-- Whether there are hexadecimal numbers. -/
  extended : Bool
deriving DecidableEq, Repr

/-- The byte of a number. -/
def byteOf (n : Nat) : Char := Char.ofNat (n % 256)

/-- The escapes of one letter. -/
def letterEscapes : List (Char × Char) := [
  ('a', '\x07'), ('b', '\x08'), ('f', '\x0c'), ('n', '\n'), ('r', '\r'), ('t', '\t'), ('v', '\x0b'),
  ('\\', '\\')]

/-- What an escape stands for, given what follows its backslash, and what follows the escape. There is
nothing that follows if the escape ends the text. -/
def escapeAt (style : EscapeStyle) (cs : Bytes) : Bytes × Option Bytes :=
  let isOctal (c : Char) : Bool := '0' ≤ c && c ≤ '7'
  let octal (limit : Nat) (rest : Bytes) : Bytes × Option Bytes :=
    let digits := (rest.take limit).takeWhile isOctal
    ([byteOf (Text.ofDigits 8 (digits.filterMap Text.asciiDigit?))], some (rest.drop digits.length))
  match cs with
  | [] => (['\\'], some [])
  | c :: rest =>
    match Ordered.get? c letterEscapes with
    | some byte => ([byte], some rest)
    | none =>
      if c = 'c' ∧ style.argument then ([], none)
      else if c = '0' ∧ style.argument then octal 3 rest
      else if isOctal c then octal 3 cs
      else if c = 'e' then (['\x1b'], some rest)
      else if c = 'x' ∧ style.extended then
        let digits := (rest.take 2).takeWhile fun d => (Text.hexDigit? d).isSome
        if digits.isEmpty then (['\\', 'x'], some rest)
        else
          ([byteOf (Text.ofDigits 16 (digits.filterMap Text.hexDigit?))], some (rest.drop digits.length))
      else (['\\', c], some rest)

/-- A text with its escapes resolved, and whether one of them ended it. -/
def unescape (style : EscapeStyle) : (fuel : Nat) → Bytes → Bytes × Bool
  | 0, _ => ([], false)
  | _, [] => ([], false)
  | fuel + 1, c :: cs =>
    if c = '\\' then
      match escapeAt style cs with
      | (bytes, some rest) =>
        let (more, ended) := unescape style fuel rest
        (bytes ++ more, ended)
      | (bytes, none) => (bytes, true)
    else
      let (more, ended) := unescape style fuel cs
      (c :: more, ended)

/-- Arguments with blanks between them. -/
def spaced (args : List Bytes) : Bytes := (args.intersperse [' ']).flatten

/-- Whether an argument is made of the flags of the program that writes its arguments. -/
def isEchoFlag : Bytes → Bool
  | '-' :: c :: cs => (c :: cs).all fun c => c == 'n' || c == 'e' || c == 'E'
  | _ => false

/-- Writes its arguments. -/
def echo (who : Speaker) (args : List Bytes) : Effect :=
  if who.builtin then
    let silent := args.head? = some ['-', 'n']
    let text := spaced (if silent then args.drop 1 else args)
    let (text, ended) := unescape ⟨true, false⟩ (text.length + 1) text
    .wrote (if silent || ended then text else text ++ ['\n'])
  else
    let flags := (args.takeWhile isEchoFlag).flatten.filter (· != '-')
    let silent := flags.contains 'n'
    let text := spaced (args.dropWhile isEchoFlag)
    let escapes := (flags.filter (· != 'n')).getLast? = some 'e'
    let (text, ended) :=
      if escapes then unescape ⟨true, true⟩ (text.length + 1) text else (text, false)
    .wrote (if silent || ended then text else text ++ ['\n'])

/-- What has been written while a format is filled. -/
structure Filling where
  /-- The arguments that are left. -/
  args : List Bytes
  /-- What was written. -/
  out : Bytes
  /-- The complaints. -/
  err : Bytes
  /-- Whether an argument or the format was wrong. -/
  failed : Bool
  /-- Whether nothing more is to be written. -/
  ended : Bool
  /-- The exit code, if the format itself was wrong. -/
  wrong : Option Nat

/-- The next argument, if there is one. -/
def Filling.next (f : Filling) : Option Bytes × Filling :=
  (f.args.head?, { f with args := f.args.drop 1 })

/-- More is written. -/
def Filling.write (f : Filling) (bytes : Bytes) : Filling := { f with out := f.out ++ bytes }

/-- Something is wrong with an argument. -/
def Filling.warn (f : Filling) (line : Bytes) : Filling :=
  { f with err := f.err ++ line, failed := true }

/-- The number at the start of a text, and what follows it. -/
def numberAt (cs : Bytes) : Int × Bytes :=
  let trimmed := cs.dropWhile fun c => c == ' ' || ('\t' ≤ c && c ≤ '\r')
  let (negative, digits) := Number.splitSign trimmed
  let row (base : Nat) (value? : Char → Option Nat) (cs : Bytes) : Int × Bytes :=
    let found := cs.takeWhile fun c => (value? c).any (· < base)
    let n : Int := (Text.ofDigits base (found.filterMap value?) : Nat)
    (if negative then -n else n, cs.drop found.length)
  match digits with
  | '0' :: x :: d :: rest =>
    if (x = 'x' ∨ x = 'X') ∧ (Text.hexDigit? d).isSome then row 16 Text.hexDigit? (d :: rest)
    else row 8 Text.asciiDigit? digits
  | '0' :: _ => row 8 Text.asciiDigit? digits
  | c :: _ => if c.isDigit then row 10 Text.asciiDigit? digits else (0, cs)
  | [] => (0, cs)

/-- The complaint about an argument that is no number, or only begins like one. -/
def numberFault (who : Speaker) (arg : Bytes) (none : Bool) : Bytes :=
  who.line (match who.builtin, none with
    | true, true => arg ++ ": expected numeric value".toList
    | true, false => arg ++ ": not completely converted".toList
    | false, true => quote arg ++ ": expected a numeric value".toList
    | false, false => quote arg ++ ": value not completely converted".toList)

/-- The next argument as a number that is read from its start. One that begins with a quote is the number
of the character after that. -/
def Filling.number {α : Type} (f : Filling) (who : Speaker) (zero : α) (ofByte : Nat → α)
    (read : Bytes → α × Bytes) : α × Filling :=
  match f.next with
  | (none, f) => (zero, f)
  | (some arg, f) =>
    match arg with
    | '\'' :: c :: _ | '"' :: c :: _ => (ofByte c.toNat, f)
    | _ =>
      let (n, rest) := read arg
      (n, if rest.isEmpty then f else f.warn (numberFault who arg (rest.length = arg.length)))

/-- A number taken into a range, with a complaint if it is not in it. -/
def Filling.within (f : Filling) (who : Speaker) (least greatest n : Int) (arg : Bytes) : Int × Filling :=
  if least ≤ n ∧ n ≤ greatest then (n, f)
  else
    let reason := ": Numerical result out of range".toList
    let quoted := if who.builtin then arg else quote arg
    (if n < least then least else greatest, f.warn (who.line (quoted ++ reason)))

/-- The decimal at the start of a text, and what follows it. -/
def decimalAt (cs : Bytes) : Binary64 × Bytes :=
  let lengths := (List.range (cs.length + 1)).reverse
  (lengths.findSome? fun n =>
    (Number.readDecimal? (String.ofList (cs.take n))).map fun x => (x, cs.drop n)).getD (.ofInt 0, cs)

/-- The next argument in a place of a format. -/
def Filling.place (f : Filling) (who : Speaker) (slot : Template.Slot) (directive : Bytes) : Filling :=
  let whole (written : Int → Bytes) : Filling :=
    let arg := f.args.headD []
    let (n, f) := f.number who 0 (fun n => (n : Int)) numberAt
    let signed := slot.conversion = 'd' || slot.conversion = 'i'
    let greatest : Int := if signed then 9223372036854775807 else 18446744073709551615
    let (n, f) := f.within who (-9223372036854775808) greatest n arg
    f.write (written n)
  let unsigned (n : Int) : Int := if n < 0 then n + 18446744073709551616 else n
  match slot.conversion with
  | 's' =>
    let (arg, f) := f.next
    f.write (slot.wording (arg.getD []))
  | 'c' =>
    let (arg, f) := f.next
    f.write (slot.pad false [] ((arg.getD []).take 1))
  | 'b' =>
    let (arg, f) := f.next
    let (text, ended) := unescape ⟨true, !who.builtin⟩ ((arg.getD []).length + 1) (arg.getD [])
    { f.write (slot.wording text) with ended := ended }
  | 'd' | 'i' => whole (slot.whole 10 [])
  | 'u' => whole fun n => slot.whole 10 [] (unsigned n)
  | 'o' => whole fun n => slot.whole 8 ['0'] (unsigned n)
  | 'x' => whole fun n => slot.whole 16 ['0', 'x'] (unsigned n)
  | 'X' => whole fun n => (slot.whole 16 ['0', 'x'] (unsigned n)).map Char.toUpper
  | 'e' | 'E' | 'f' | 'F' | 'g' | 'G' =>
    let (x, f) := f.number who (.ofInt 0) (fun n => .ofInt n) decimalAt
    f.write (slot.decimal x)
  | _ =>
    let message := if who.builtin then ": invalid directive" else ": invalid conversion specification"
    { f with
      err := f.err ++ who.line (directive ++ message.toList)
      ended := true
      wrong := some (if who.builtin then 2 else 1) }

/-- A width or a precision, which an argument may give, and what follows it. -/
def Filling.measure (f : Filling) (who : Speaker) (cs : Bytes) : Option Int × Bytes × Filling :=
  match cs with
  | '*' :: rest =>
    let (n, f) := f.number who 0 (fun n => (n : Int)) numberAt
    (some n, rest, f)
  | _ =>
    let digits := cs.takeWhile Char.isDigit
    let n : Int := (Text.ofDigits 10 (digits.filterMap Text.asciiDigit?) : Nat)
    (if digits.isEmpty then none else some n, cs.drop digits.length, f)

/-- A format filled once. -/
def Filling.once (f : Filling) (who : Speaker) : (fuel : Nat) → Bytes → Filling
  | 0, _ => f
  | _, [] => f
  | fuel + 1, c :: cs =>
    if f.ended then f
    else match c, cs with
      | '\\', _ =>
        match escapeAt ⟨false, !who.builtin⟩ cs with
        | (bytes, some rest) => (f.write bytes).once who fuel rest
        | (bytes, none) => { f.write bytes with ended := true }
      | '%', '%' :: rest => (f.write ['%']).once who fuel rest
      | '%', _ =>
        let flags := cs.takeWhile fun c => "-+ #0".toList.contains c
        let (width, rest, f) := f.measure who (cs.drop flags.length)
        let (precision, rest, f) := match rest with
          | '.' :: more =>
            let (n, more, f) := f.measure who more
            (some (n.getD 0).toNat, more, f)
          | _ => (none, rest, f)
        let flags := if (width.getD 0) < 0 then '-' :: flags else flags
        match rest with
        | [] =>
          if who.builtin then
            let message := "missing format character".toList
            { f with err := f.err ++ who.line message, ended := true, wrong := some 2 }
          else
            let message := "%: invalid conversion specification".toList
            { f with err := f.err ++ who.line message, ended := true, wrong := some 1 }
        | letter :: rest =>
          let directive := '%' :: cs.take (cs.length - rest.length)
          (f.place who ⟨flags, (width.getD 0).natAbs, precision, letter⟩ directive).once who fuel rest
      | _, _ => (f.write [c]).once who fuel cs

/-- A format filled again and again as long as that takes arguments. -/
def Filling.all (f : Filling) (who : Speaker) (form : Bytes) : (fuel : Nat) → Filling
  | 0 => f
  | fuel + 1 =>
    let before := f.args.length
    let f := f.once who (form.length + 1) form
    if f.ended || f.args.isEmpty || f.args.length = before then f else f.all who form fuel

/-- Writes its arguments in the places of a format. -/
def printf (who : Speaker) (args : List Bytes) : Effect :=
  let wrongFlag := match args with
    | ('-' :: c :: _) :: _ => if c = '-' then none else some c
    | _ => none
  let args := if args.head? = some ['-', '-'] then args.drop 1 else args
  match if who.builtin then wrongFlag else none, args with
  | some c, _ => who.complain ("Illegal option -".toList ++ [c]) 2
  | none, [] =>
    if who.builtin then who.complain "usage: printf format [arg ...]".toList 2
    else who.needOperand 1
  | none, form :: args =>
    let f := (Filling.mk args [] [] false false none).all who form (args.length + 1)
    let spare := match f.args with
      | arg :: _ =>
        if f.ended || who.builtin then []
        else who.line ("warning: ignoring excess arguments, starting with ".toList ++ quote arg)
      | [] => []
    ⟨f.out, f.err ++ spare, f.wrong.getD (if f.failed then 1 else 0)⟩

end Utility

end TokenLint
