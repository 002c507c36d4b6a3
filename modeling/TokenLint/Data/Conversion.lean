import TokenLint.Data.Payload
import TokenLint.Number.Reading

/-!
# Conversions of payloads

Payloads read as numbers or as the text of a path, where their kind allows it, and written as text, where
their whole numbers are short enough.

## Main definitions

* `ConversionFault`: Why a payload does not convert.
* `Payload.asWhole`: The whole number that a payload stands for.
* `Payload.asDecimal`: The decimal that a payload stands for.
* `Payload.asPathText`: The path that a payload spells.
* `Payload.asText`: The plain text of a payload.
* `Payload.keyFault?`: What keeps a payload from being a key.
-/

namespace TokenLint

/-- Why a payload does not convert. -/
inductive ConversionFault where
  /-- The text of such a literal form is no whole number. -/
  | notWhole (form : String)
  /-- The text is a whole number with too many digits. -/
  | tooLong (digits : Nat)
  /-- A whole number has too many digits to be written. -/
  | unwritable
  /-- The text of such a literal form is no decimal. -/
  | notDecimal (form : String)
  /-- An infinity is no whole number. -/
  | infinity
  /-- What is no number is no whole number. -/
  | nan
  /-- The whole number is too large for a decimal. -/
  | tooLarge
  /-- A value of such a kind is no whole number. -/
  | noWhole (sort : String)
  /-- A value of such a kind is no decimal. -/
  | noDecimal (sort : String)
  /-- A value of such a kind is no path. -/
  | noPath (sort : String)
  /-- A value of such a kind is no key. -/
  | noKey (sort : String)
deriving DecidableEq, Repr

/-- The first two hundred characters of a text. -/
def firstPart (s : String) : String := String.ofList (s.toList.take 200)

/-- How the fault reads. -/
def ConversionFault.message : ConversionFault → String
  | notWhole form => s!"invalid literal for int() with base 10: {firstPart form}"
  | tooLong digits =>
    s!"Exceeds the limit (4300 digits) for integer string conversion: value has {digits} digits; " ++
      "use sys.set_int_max_str_digits() to increase the limit"
  | unwritable =>
    "Exceeds the limit (4300 digits) for integer string conversion; " ++
      "use sys.set_int_max_str_digits() to increase the limit"
  | notDecimal form => s!"could not convert string to float: {form}"
  | infinity => "cannot convert float infinity to integer"
  | nan => "cannot convert float NaN to integer"
  | tooLarge => "int too large to convert to float"
  | noWhole sort =>
    s!"int() argument must be a string, a bytes-like object or a real number, not '{sort}'"
  | noDecimal sort => s!"float() argument must be a string or a real number, not '{sort}'"
  | noPath sort => s!"expected str, bytes or os.PathLike object, not {sort}"
  | noKey sort => s!"unhashable type: '{sort}'"

namespace Payload

/-- The whole number that a payload stands for. A fraction is cut off. -/
def asWhole : Payload → Except ConversionFault Int
  | bool b => .ok (if b then 1 else 0)
  | int n => .ok n
  | number .nan => .error .nan
  | number x => match x.truncate? with
    | some n => .ok n
    | none => .error .infinity
  | x => match x.wording? with
    | some s => (Number.readWhole s).mapError fun
      | .malformed => .notWhole x.literal
      | .tooLong digits => .tooLong digits
    | none => .error (.noWhole x.sort)

/-- The decimal that a payload stands for. -/
def asDecimal : Payload → Except ConversionFault Binary64
  | bool b => .ok (.ofInt (if b then 1 else 0))
  | int n => match Binary64.ofInt n with
    | .infinite _ => .error .tooLarge
    | x => .ok x
  | number x => .ok x
  | x => match x.wording? with
    | some s => match Number.readDecimal? s with
      | some n => .ok n
      | none => .error (.notDecimal x.literal)
    | none => .error (.noDecimal x.sort)

/-- The path that a payload spells. -/
def asPathText : Payload → Except ConversionFault String
  | path p => .ok p.toString
  | x => match x.wording? with
    | some s => .ok s
    | none => .error (.noPath x.sort)

mutual

/-- What keeps a payload from being a key: lists and maps are none, and tuples that have one are none. -/
def keyFault? : Payload → Option ConversionFault
  | list items => some (.noKey (list items).sort)
  | map entries => some (.noKey (map entries).sort)
  | tuple items => keysFault? items
  | _ => none

/-- What keeps several payloads from being keys. -/
def keysFault? : List Payload → Option ConversionFault
  | [] => none
  | x :: xs => x.keyFault?.or (keysFault? xs)

end

/-- Several payloads, each only where it first occurs. All of them have to be keys. -/
def distinctKeys (xs : List Payload) : Except ConversionFault (List Payload) :=
  match keysFault? xs with
  | some fault => .error fault
  | none => .ok (distinctBy sameKey xs)

mutual

/-- Whether the whole numbers in a payload have no more digits than are written. -/
def isWritable : Payload → Bool
  | int n => n.natAbs < Nat.pow 10 Number.digitLimit
  | list items | tuple items => areWritable items
  | map entries => entriesAreWritable entries
  | _ => true

/-- Whether the whole numbers in several payloads have no more digits than are written. -/
def areWritable : List Payload → Bool
  | [] => true
  | x :: xs => x.isWritable && areWritable xs

/-- Whether the whole numbers in several entries have no more digits than are written. -/
def entriesAreWritable : List (Payload × Payload) → Bool
  | [] => true
  | (k, x) :: rest => k.isWritable && x.isWritable && entriesAreWritable rest

end

/-- The plain text of a payload, if its whole numbers can be written. -/
def asText (x : Payload) : Except ConversionFault String :=
  if x.isWritable then .ok x.text else .error .unwritable

end Payload

end TokenLint
