import TokenLint.Data.Payload
import TokenLint.Number.Places

/-!
# Message templates

A template is a text with places for arguments. A place starts with a percent sign and ends with a letter
that says how its argument is written; between them may stand the name of an argument, flags, a width
and a precision. Two percent signs are one.

Arguments are taken one after the other, and all of them have to be used. A single map of values may be
used by name instead.

## Main definitions

* `Template.Slot`: A place for an argument.
* `Template.Fault`: Why a template cannot be filled.
* `Template.fill`: A template filled with arguments.
-/

namespace TokenLint

namespace Template

/-- A place for an argument. -/
structure Slot where
  /-- The flags. -/
  flags : List Char
  /-- The least number of characters. -/
  width : Nat
  /-- The precision. -/
  precision : Option Nat
  /-- How the argument is written. -/
  conversion : Char
deriving DecidableEq, Repr

/-- Why a template cannot be filled. -/
inductive Fault where
  /-- There are more places than arguments. -/
  | tooFew
  /-- There are more arguments than places. -/
  | tooMany
  /-- The last place is not complete. -/
  | incomplete
  /-- The name in the last place is not complete. -/
  | incompleteName
  /-- A place has a name, but the arguments have none. -/
  | noNames
  /-- A place has a name, but the arguments are one list. -/
  | listed
  /-- There is no argument of that name. -/
  | unknownName (name : String)
  /-- A width or a precision is to be taken from an argument that is no whole number. -/
  | badMeasure
  /-- A width or a precision from an argument is too large. The text names the type that it does not fit. -/
  | measureTooLarge (type : String)
  /-- A width or a precision in the template is too large. The text says which. -/
  | measureTooBig (what : String)
  /-- A precision is too large for the digits of a whole number. -/
  | precisionTooLarge
  /-- A place is wider than any text. -/
  | tooWide
  /-- There is no such letter. -/
  | badConversion (letter : Char) (place : Nat)
  /-- An argument of such a type is no number. -/
  | noNumber (letter : Char) (type : String)
  /-- An argument of such a type is no whole number. -/
  | noWhole (letter : Char) (type : String)
  /-- An argument of such a type is no decimal. -/
  | noDecimal (type : String)
  /-- An argument is no character. -/
  | noCharacter
  /-- There is no character of that number. -/
  | characterTooLarge
  /-- A whole number is too large for a decimal. -/
  | tooLarge
  /-- An infinity is no whole number. -/
  | infinity
  /-- What is no number is no whole number. -/
  | nan
deriving DecidableEq, Repr

/-- How the fault reads. -/
def Fault.message : Fault → String
  | tooFew => "not enough arguments for format string"
  | tooMany => "not all arguments converted during string formatting"
  | incomplete => "incomplete format"
  | incompleteName => "incomplete format key"
  | noNames => "format requires a mapping"
  | listed => "list indices must be integers or slices, not str"
  | unknownName name => Text.quoted name
  | badMeasure => "* wants int"
  | measureTooLarge type => s!"Python int too large to convert to C {type}"
  | measureTooBig what => s!"{what} too big"
  | precisionTooLarge => "precision too large"
  | tooWide => ""
  | badConversion letter place =>
    let shown := if 0x1F ≤ letter.toNat ∧ letter.toNat < 0x7F then letter else '?'
    let number := String.ofList (Text.hexText 1 letter.toNat)
    s!"unsupported format character '{shown}' (0x{number}) at index {place}"
  | noNumber letter type => s!"%{letter} format: a real number is required, not {type}"
  | noWhole letter type => s!"%{letter} format: an integer is required, not {type}"
  | noDecimal type => s!"must be real number, not {type}"
  | noCharacter => "%c requires int or char"
  | characterTooLarge => "%c arg not in range(0x110000)"
  | tooLarge => "int too large to convert to float"
  | infinity => "cannot convert float infinity to integer"
  | nan => "cannot convert float NaN to integer"

/-- The arguments that are left, and those that have names. -/
structure Arguments where
  /-- The arguments in order. -/
  rest : List Payload
  /-- The arguments by name, if there are any. They may be left over. -/
  named : Option (List (Payload × Payload))

/-- Arguments that are given one after the other. A single map with entries gives them by name too. -/
def Arguments.ofList : List Payload → Arguments
  | [.map (e :: es)] => ⟨[.map (e :: es)], some (e :: es)⟩
  | xs => ⟨xs, none⟩

/-- Arguments that are given as one value: those of a tuple one after the other, those of a map by name. A
list is a single one that may be left over. -/
def Arguments.ofValue : Payload → Arguments
  | .tuple xs => ⟨xs, none⟩
  | .map entries => ⟨[.map entries], some entries⟩
  | .list xs => ⟨[.list xs], some []⟩
  | x => ⟨[x], none⟩

/-- The next argument. -/
def Arguments.next (a : Arguments) : Except Fault (Payload × Arguments) :=
  match a.rest with
  | x :: xs => .ok (x, { a with rest := xs })
  | [] => .error .tooFew

/-- The arguments that are left when a place takes the one of a name. -/
def Arguments.choose (a : Arguments) (name : String) : Except Fault Arguments :=
  match a.named with
  | none => .error .noNames
  | some [] => .error .listed
  | some entries =>
    match entries.find? fun (k, _) => k.sameKey (.string name) with
    | some (_, x) => .ok { a with rest := [x] }
    | none => .error (.unknownName name)

/-- The width from which on no text is wide enough for a place. -/
def widthLimit : Nat := Nat.pow 2 35

/-- The precision from which on a whole number is not written. -/
def precisionLimit : Nat := 2147483645

/-- Text filled up to the width of a place. A number may be filled with zeros after its sign. -/
def Slot.pad (s : Slot) (numeric : Bool) (lead body : List Char) : List Char :=
  let missing := s.width - (lead.length + body.length)
  if s.flags.contains '-' then lead ++ body ++ List.replicate missing ' '
  else if numeric && s.flags.contains '0' then lead ++ List.replicate missing '0' ++ body
  else List.replicate missing ' ' ++ lead ++ body

/-- The sign of a number in a place. -/
def Slot.sign (s : Slot) (negative : Bool) : List Char :=
  if negative then ['-']
  else if s.flags.contains '+' then ['+']
  else if s.flags.contains ' ' then [' ']
  else []

/-- A whole number in a base. -/
def Slot.whole (s : Slot) (base : Nat) (mark : List Char) (n : Int) : List Char :=
  let digits := Nat.toDigits base n.natAbs
  let digits := List.replicate (s.precision.getD 0 - digits.length) '0' ++ digits
  let lead := s.sign (n < 0) ++ (if s.flags.contains '#' then mark else [])
  s.pad true lead digits

/-- The whole number that an argument is, without a fraction. -/
def wholePart (letter : Char) : Payload → Except Fault Int
  | .number .nan => .error .nan
  | .number x => match x.truncate? with
    | some n => .ok n
    | none => .error .infinity
  | x => match x.whole? with
    | some n => .ok n
    | none => .error (.noNumber letter x.sort)

/-- The whole number that an argument is. -/
def exactWhole (letter : Char) : Payload → Except Fault Int
  | .bool b => .ok (if b then 1 else 0)
  | .int n => .ok n
  | x => .error (.noWhole letter x.sort)

/-- The decimal that an argument is. -/
def decimal : Payload → Except Fault Binary64
  | .bool b => .ok (.ofInt (if b then 1 else 0))
  | .int n => match Binary64.ofInt n with
    | .infinite _ => .error .tooLarge
    | x => .ok x
  | .number x => .ok x
  | x => .error (.noDecimal x.sort)

/-- An argument as one character. -/
def character : Payload → Except Fault (List Char)
  | .string s => match s.toList with
    | [c] => .ok [c]
    | _ => .error .noCharacter
  | x => match exactWhole 'c' x with
    | .ok n => if 0 ≤ n ∧ n < 0x110000 then .ok [Char.ofNat n.toNat] else .error .characterTooLarge
    | .error _ => .error .noCharacter

/-- A text with ASCII characters only, the others being escaped. -/
def asciiOnly (s : String) : List Char :=
  s.toList.flatMap fun c =>
    if c.toNat < 0x80 then [c]
    else if c.toNat < 0x100 then '\\' :: 'x' :: Text.hexText 2 c.toNat
    else if c.toNat < 0x10000 then '\\' :: 'u' :: Text.hexText 4 c.toNat
    else '\\' :: 'U' :: Text.hexText 8 c.toNat

/-- A text in a place, cut to the precision. -/
def Slot.wording (s : Slot) (cs : List Char) : List Char :=
  s.pad false [] (match s.precision with | some n => cs.take n | none => cs)

/-- A decimal with a point, if it has digits. -/
def withPoint (body : List Char) : List Char :=
  if body.contains '.' || !(body.any Char.isDigit) then body
  else
    let front := body.takeWhile (· != 'e')
    front ++ '.' :: body.drop front.length

/-- A decimal in a place. -/
def Slot.decimal (s : Slot) (x : Binary64) : List Char :=
  let precision := s.precision.getD 6
  let body := match s.conversion.toLower with
    | 'e' => x.scientific precision
    | 'f' => x.fixed precision
    | _ => x.general (s.flags.contains '#') precision
  let body := if s.flags.contains '#' then withPoint body else body
  let body := if s.conversion.isUpper then body.map Char.toUpper else body
  s.pad true (s.sign x.isNegative) body

/-- A place for a whole number, if its precision is not too large. -/
def Slot.forWhole (s : Slot) : Except Fault Slot :=
  if precisionLimit ≤ s.precision.getD 0 then .error .precisionTooLarge else .ok s

/-- An argument in a place, which is at an index of the template. -/
def Slot.write (s : Slot) (place : Nat) (x : Payload) : Except Fault (List Char) := do
  match s.conversion with
  | 's' => return s.wording x.text.toList
  | 'r' => return s.wording x.literal.toList
  | 'a' => return s.wording (asciiOnly x.literal)
  | 'd' | 'i' | 'u' =>
    let n ← wholePart s.conversion x
    return (← s.forWhole).whole 10 [] n
  | 'x' =>
    let n ← exactWhole 'x' x
    return (← s.forWhole).whole 16 ['0', 'x'] n
  | 'X' =>
    let n ← exactWhole 'X' x
    return ((← s.forWhole).whole 16 ['0', 'x'] n).map Char.toUpper
  | 'o' =>
    let n ← exactWhole 'o' x
    return (← s.forWhole).whole 8 ['0', 'o'] n
  | 'e' | 'E' | 'f' | 'F' | 'g' | 'G' => return s.decimal (← Template.decimal x)
  | 'c' => return s.pad false [] (← character x)
  | letter => throw (.badConversion letter place)

/-- An argument in a place, if there is a text as wide as the place. What is wrong with the argument is
seen first. -/
def Slot.fill (s : Slot) (place : Nat) (x : Payload) : Except Fault (List Char) :=
  if widthLimit ≤ s.width then ({ s with width := 0 }.write place x).bind fun _ => .error .tooWide
  else s.write place x

/-- A width or a precision that starts here, if there is one, and what follows. It has to fit a signed
number of so many bits. -/
def measure (bits : Nat) (what type : String) (cs : List Char) (a : Arguments) :
    Except Fault (Option Int × List Char × Arguments) :=
  let limit : Int := (Nat.pow 2 (bits - 1) : Nat)
  match cs with
  | '*' :: rest => do
    let (x, a) ← a.next
    match exactWhole 'd' x with
    | .ok n => if -limit ≤ n ∧ n < limit then return (some n, rest, a) else throw (.measureTooLarge type)
    | .error _ => throw .badMeasure
  | _ =>
    let digits := cs.takeWhile Char.isDigit
    let n : Int := (Text.ofDigits 10 (digits.filterMap Text.asciiDigit?) : Nat)
    if digits.isEmpty then .ok (none, cs, a)
    else if n < limit then .ok (some n, cs.drop digits.length, a)
    else .error (.measureTooBig what)

/-- The name in a place that starts here, if there is one, and what follows. Brackets may be nested. -/
def nameOf : (fuel depth : Nat) → List Char → Option (List Char × List Char)
  | 0, _, _ => none
  | _, _, [] => none
  | fuel + 1, depth, c :: cs =>
    if c = ')' ∧ depth = 0 then some ([], cs)
    else
      let depth := if c = '(' then depth + 1 else if c = ')' then depth - 1 else depth
      (nameOf fuel depth cs).map fun (name, rest) => (c :: name, rest)

/-- The rest of a place after its percent sign and its name: what it writes, the characters that follow
and the arguments that are left. -/
def fillSlot (size : Nat) (cs : List Char) (a : Arguments) :
    Except Fault (List Char × List Char × Arguments) := do
  let isFlag (c : Char) : Bool := c == '-' || c == '+' || c == ' ' || c == '#' || c == '0'
  let flags := cs.takeWhile isFlag
  let (width, cs, a) ← measure 64 "width" "ssize_t" (cs.drop flags.length) a
  let (precision, cs, a) ← match cs with
    | '.' :: rest => (measure 32 "precision" "int" rest a).map fun (p, r, a) => (some (p.getD 0), r, a)
    | _ => .ok (none, cs, a)
  let cs := match cs with
    | c :: rest => if c = 'h' ∨ c = 'l' ∨ c = 'L' then rest else cs
    | [] => cs
  match cs with
  | [] => throw .incomplete
  | letter :: rest =>
    let width := width.getD 0
    let flags := if width < 0 then '-' :: flags else flags
    let slot : Slot := ⟨flags, width.natAbs, precision.map Int.toNat, letter⟩
    let (x, a) ← a.next
    let text ← slot.fill (size - cs.length) x
    return (text, rest, a)

/-- The rest of a template filled with the arguments that are left. -/
def fillFrom (size : Nat) : (fuel : Nat) → List Char → Arguments → Except Fault (List Char)
  | 0, _, _ => .error .incomplete
  | _, [], a => if a.rest.isEmpty || a.named.isSome then .ok [] else .error .tooMany
  | fuel + 1, '%' :: '%' :: cs, a => (fillFrom size fuel cs a).map ('%' :: ·)
  | fuel + 1, '%' :: cs, a => do
    let (cs, a) ← match cs with
      | '(' :: rest =>
        if a.named.isNone then throw .noNames
        match nameOf (rest.length + 1) 0 rest with
        | some (name, rest) => (a.choose (String.ofList name)).map fun a => (rest, a)
        | none => throw .incompleteName
      | _ => .ok (cs, a)
    let (text, rest, a) ← fillSlot size cs a
    return text ++ (← fillFrom size fuel rest a)
  | fuel + 1, c :: cs, a => (fillFrom size fuel cs a).map (c :: ·)

/-- A template filled with arguments. -/
def fill (template : String) (a : Arguments) : Except Fault String :=
  let cs := template.toList
  (fillFrom cs.length (cs.length + 1) cs a).map String.ofList

end Template

end TokenLint
