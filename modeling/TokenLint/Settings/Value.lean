import TokenLint.Data.Conversion
import TokenLint.Data.Moment

/-!
# Raw settings

The values that settings have before they are looked at: what a settings file can hold, and no value,
which a table made by a program can hold too. A table keeps its keys in order.

## Main definitions

* `Setting`: The values.
* `Table`: Values by name.
* `Setting.payload`: A value for reports.
* `Setting.isZero`: Whether a value is equal to zero.
-/

namespace TokenLint

/-- A value in settings. -/
inductive Setting where
  /-- No value. -/
  | null
  /-- A truth value. -/
  | bool (b : Bool)
  /-- A whole number. -/
  | int (n : Int)
  /-- A number with a fraction or an exponent. -/
  | number (x : Binary64)
  /-- A text. -/
  | string (s : String)
  /-- A date or a time. -/
  | moment (m : Moment)
  /-- Several values in order. -/
  | list (items : List Setting)
  /-- Several values by name, in order. -/
  | table (entries : List (String × Setting))
deriving Repr

/-- Values by name, in order. -/
abbrev Table := List (String × Setting)

namespace Setting

instance : Inhabited Setting := ⟨null⟩

mutual

/-- The payload that a value is. -/
def payload : Setting → Payload
  | null => .null
  | bool b => .bool b
  | int n => .int n
  | number x => .number x
  | string s => .string s
  | moment m => .thing m.kind m.text m.literal
  | list items => .list (payloads items)
  | table entries => .map (entryPayloads entries)

/-- The payloads that several values are. -/
def payloads : List Setting → List Payload
  | [] => []
  | x :: xs => x.payload :: payloads xs

/-- The payloads that several entries are. -/
def entryPayloads : List (String × Setting) → List (Payload × Payload)
  | [] => []
  | (k, x) :: rest => (.string k, x.payload) :: entryPayloads rest

end

mutual

/-- The value that a JSON value is. -/
def ofJson : Json → Setting
  | .null => null
  | .bool b => bool b
  | .int n => int n
  | .number x => number x
  | .string s => string s
  | .array items => list (ofJsons items)
  | .object fields => table (ofFields fields)

/-- The values that several JSON values are. -/
def ofJsons : List Json → List Setting
  | [] => []
  | x :: xs => ofJson x :: ofJsons xs

/-- The entries that several fields are. -/
def ofFields : List (String × Json) → Table
  | [] => []
  | (k, x) :: rest => (k, ofJson x) :: ofFields rest

end

/-- The plain text of a value. -/
def text (x : Setting) : String := x.payload.text

/-- The plain text of a value, if its whole numbers can be written. -/
def asText (x : Setting) : Except ConversionFault String := x.payload.asText

/-- Whether a value is equal to zero, as a number of any kind or as a truth value. -/
def isZero : Setting → Bool
  | bool b => !b
  | int n => n == 0
  | number x => x.isZero
  | _ => false

end Setting

end TokenLint
