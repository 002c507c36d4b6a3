import TokenLint.Command.Utility.Basic

/-!
# Programs that change their input

## Main definitions

* `tr`: Replaces characters, or takes them out.
* `sort`, `uniq`: Put lines into order, and leave out those that are like the one before.
-/

namespace TokenLint

namespace Utility

/-- The characters of a set, in which two with a dash between them stand for all from one to the other. -/
def charactersOf : (fuel : Nat) → Bytes → Bytes
  | 0, _ => []
  | _, [] => []
  | fuel + 1, '[' :: ':' :: cs =>
    let name := cs.takeWhile (· != ':')
    let range (a b : Char) : Bytes :=
      (List.range (b.toNat + 1 - a.toNat)).map fun n => Char.ofNat (a.toNat + n)
    let members := match String.ofList name with
      | "upper" => range 'A' 'Z'
      | "lower" => range 'a' 'z'
      | "digit" => range '0' '9'
      | "alpha" => range 'A' 'Z' ++ range 'a' 'z'
      | "alnum" => range '0' '9' ++ range 'A' 'Z' ++ range 'a' 'z'
      | "space" => range '\t' '\r' ++ [' ']
      | _ => []
    members ++ charactersOf fuel (cs.drop (name.length + 2))
  | fuel + 1, '\\' :: c :: cs =>
    let shown := match c with
      | 'n' => '\n'
      | 't' => '\t'
      | 'r' => '\r'
      | '0' => '\x00'
      | _ => c
    shown :: charactersOf fuel cs
  | fuel + 1, a :: '-' :: b :: cs =>
    if a ≤ b then
      (List.range (b.toNat + 1 - a.toNat)).map (fun n => Char.ofNat (a.toNat + n)) ++ charactersOf fuel cs
    else a :: charactersOf fuel ('-' :: b :: cs)
  | fuel + 1, c :: cs => c :: charactersOf fuel cs

/-- A text in which each of some characters stands once where it stood several times. -/
def squeezed (set : Char → Bool) : Bytes → Bytes
  | a :: b :: cs => if a = b && set a then squeezed set (b :: cs) else a :: squeezed set (b :: cs)
  | cs => cs

/-- Replaces characters of the input, or takes them out. -/
def tr (who : Speaker) (args : List Bytes) (input : Bytes) : Effect :=
  let flags := (args.takeWhile fun arg => arg.head? = some '-' && 1 < arg.length).flatten
  let sets := (args.dropWhile fun arg => arg.head? = some '-' && 1 < arg.length).map fun set =>
    charactersOf (set.length + 1) set
  let other := flags.contains 'c' || flags.contains 'C'
  match sets with
  | [] => who.needOperand 1
  | first :: more =>
    let belongs (c : Char) : Bool := first.contains c != other
    let second := more.headD []
    if flags.contains 'd' then
      let kept := input.filter fun c => !belongs c
      .wrote (if flags.contains 's' then squeezed second.contains kept else kept)
    else if more.isEmpty then
      if flags.contains 's' then .wrote (squeezed belongs input)
      else who.refuse ("missing operand after ".toList ++ quote (args.getLast?.getD [])
        ++ "\nTwo strings must be given when translating.".toList) 1
    else
      let last := second.getLast?
      let replaced := input.map fun c =>
        if !belongs c then c
        else if other then last.getD c
        else (second[first.length - 1 - (first.reverse.findIdx (· == c))]?.or last).getD c
      .wrote (if flags.contains 's' then squeezed second.contains replaced else replaced)

/-- Whether a line comes no later than another. -/
def inOrder (byNumber : Bool) (a b : Bytes) : Bool :=
  let number (cs : Bytes) : Int :=
    let cs := cs.dropWhile fun c => c == ' ' || c == '\t'
    let (negative, digits) := Number.splitSign cs
    let n : Int := (Text.ofDigits 10 ((digits.takeWhile Char.isDigit).filterMap Text.asciiDigit?) : Nat)
    if negative then -n else n
  if byNumber && number a != number b then number a < number b else !(b < a)

/-- A row without those that are like the one before. -/
def withoutRepeats (same : Bytes → Bytes → Bool) : List Bytes → List Bytes
  | a :: b :: rest =>
    if same a b then withoutRepeats same (a :: rest) else a :: withoutRepeats same (b :: rest)
  | rows => rows
termination_by rows => rows.length

/-- The lines of an input without their ends. -/
def rowsOf (input : Bytes) : List Bytes :=
  (linesOf input).map fun row => if row.getLast? = some '\n' then row.dropLast else row

/-- Puts the lines of its input into order. -/
def sort (args : List Bytes) (input : Bytes) : Effect :=
  let flags := (args.filter fun arg => arg.head? = some '-').flatten
  let order := inOrder (flags.contains 'n')
  let order := if flags.contains 'r' then fun a b => order b a else order
  let rows := (rowsOf input).mergeSort order
  let rows := if flags.contains 'u' then withoutRepeats (fun a b => order a b && order b a) rows else rows
  .wrote (rows.flatMap (· ++ ['\n']))

/-- Leaves out lines that are like the one before. -/
def uniq (input : Bytes) : Effect :=
  .wrote ((withoutRepeats (fun a b => a = b) (rowsOf input)).flatMap (· ++ ['\n']))

end Utility

end TokenLint
