import TokenLint.Data.Json
import TokenLint.Path
import TokenLint.Vocabulary

/-!
# Payloads

The values that reports and logs are made of before they become JSON: besides JSON's own they may be
words of a vocabulary, paths, tuples, maps with keys of any kind, and things known by their text alone.
Every payload has a plain text and a literal form, which shows what kind of value it is; the two differ
for texts and for what is known by its text.

A map holds each key once, and keys that are equal as values are one key: numbers are compared by value
whatever their kind, and the word of a vocabulary is equal to its text.

## Main definitions

* `Symbol`: A word of one of the vocabularies.
* `Payload`: The values.
* `Payload.text`, `Payload.literal`: The plain text and the literal form.
* `Payload.mapOf`: The map that pairs make.
* `Payload.isVoid`: Whether nothing is given by a value.
* `Payload.member`: The member of a vocabulary whose word a value is.
* `Payload.toJson`: The JSON value of a payload.
-/

namespace TokenLint

/-- A word of one of the vocabularies. -/
inductive Symbol where
  /-- How bad a finding is. -/
  | severity (s : Severity)
  /-- Who found something. -/
  | source (s : Source)
  /-- How a file came out. -/
  | status (s : FileStatus)
  /-- How log lines are written. -/
  | logFormat (f : LogFormat)
  /-- The part of the program that a log line comes from. -/
  | logComponent (c : LogComponent)
  /-- How the outcome of a run is written. -/
  | outputFormat (f : OutputFormat)
  /-- Which findings make a run fail. -/
  | failPolicy (p : FailPolicy)
deriving DecidableEq, Repr

namespace Symbol

/-- The word itself. -/
def word : Symbol → String
  | severity s => Vocabulary.word s
  | source s => Vocabulary.word s
  | status s => Vocabulary.word s
  | logFormat f => Vocabulary.word f
  | logComponent c => Vocabulary.word c
  | outputFormat f => Vocabulary.word f
  | failPolicy p => Vocabulary.word p

/-- The name of the word's vocabulary. -/
def label : Symbol → String
  | severity _ => Vocabulary.label Severity
  | source _ => Vocabulary.label Source
  | status _ => Vocabulary.label FileStatus
  | logFormat _ => Vocabulary.label LogFormat
  | logComponent _ => Vocabulary.label LogComponent
  | outputFormat _ => Vocabulary.label OutputFormat
  | failPolicy _ => Vocabulary.label FailPolicy

/-- The literal form: the vocabulary, the name of the member, and the word. -/
def literal (s : Symbol) : String :=
  let member := s.word.map fun c => if c = '-' then '_' else c.toUpper
  s!"<{s.label}.{member}: {Text.quoted s.word}>"

end Symbol

/-- A value that reports and logs are made of. -/
inductive Payload where
  /-- No value. -/
  | null
  /-- A truth value. -/
  | bool (b : Bool)
  /-- A whole number. -/
  | int (n : Int)
  /-- A number with a fraction or an exponent. -/
  | number (x : Binary64)
  /-- A text. -/
  | string (s : String)
  /-- A word of a vocabulary. -/
  | symbol (s : Symbol)
  /-- A path. -/
  | path (p : Path)
  /-- Several values in order. -/
  | list (items : List Payload)
  /-- Several values in order that belong together. -/
  | tuple (items : List Payload)
  /-- Several values by key, in order. -/
  | map (entries : List (Payload × Payload))
  /-- Something known by its kind, its text and its literal form. -/
  | thing (kind text literal : String)
deriving Repr

namespace Payload

instance : Inhabited Payload := ⟨null⟩

mutual

/-- The literal form of a value. -/
def literal : Payload → String
  | null => "None"
  | bool true => "True"
  | bool false => "False"
  | int n => toString n
  | number x => x.text
  | string s => Text.quoted s
  | symbol s => s.literal
  | path p => s!"PosixPath({Text.quoted p.toString})"
  | list items => "[" ++ Text.joinWith ", " (literals items) ++ "]"
  | tuple [x] => "(" ++ x.literal ++ ",)"
  | tuple items => "(" ++ Text.joinWith ", " (literals items) ++ ")"
  | map entries => "\x7b" ++ Text.joinWith ", " (entryLiterals entries) ++ "\x7d"
  | thing _ _ form => form

/-- The literal forms of several values. -/
def literals : List Payload → List String
  | [] => []
  | x :: xs => x.literal :: literals xs

/-- The literal forms of several entries. -/
def entryLiterals : List (Payload × Payload) → List String
  | [] => []
  | (k, x) :: rest => (k.literal ++ ": " ++ x.literal) :: entryLiterals rest

end

/-- The plain text of a value. -/
def text : Payload → String
  | string s => s
  | symbol s => s.word
  | path p => p.toString
  | thing _ form _ => form
  | x => x.literal

/-- The text of several values that are given together: a single one is as it is, others are a tuple. -/
def jointText : List Payload → String
  | [] => ""
  | [x] => x.text
  | several => (tuple several).literal

/-- The number that a value counts as when keys are compared. -/
def numeral? : Payload → Option Binary64
  | bool b => some (.ofInt (if b then 1 else 0))
  | number x => some (if x.isZero then .zeroOf false else x)
  | _ => none

/-- The text that a value counts as when keys are compared. -/
def wording? : Payload → Option String
  | string s => some s
  | symbol s => some s.word
  | _ => none

/-- Whether nothing is given by a value: it is no value, no, zero, or without anything in it. -/
def isVoid : Payload → Bool
  | null => true
  | bool b => !b
  | int n => n = 0
  | number x => x.isZero
  | string s => s.isEmpty
  | list items | tuple items => items.isEmpty
  | map entries => entries.isEmpty
  | symbol _ | path _ | thing _ _ _ => false

/-- The member of a vocabulary whose word a value is, as it is written, or the complaint that it is none. -/
def member {α : Type} [Vocabulary α] (x : Payload) : Except String α :=
  match (Vocabulary.members : List α).find? fun a => x.wording? = some (Vocabulary.word a) with
  | some a => .ok a
  | none => .error s!"{x.literal} is not a valid {Vocabulary.label α}"

/-- The whole number that a value counts as when keys are compared. -/
def whole? : Payload → Option Int
  | bool b => some (if b then 1 else 0)
  | int n => some n
  | number x => x.whole?
  | _ => none

mutual

/-- Whether two values are one key. -/
def sameKey : Payload → Payload → Bool
  | tuple xs, tuple ys => sameKeys xs ys
  | null, null => true
  | path p, path q => p = q
  | x, y =>
    match x.whole?, y.whole? with
    | some m, some n => m = n
    | some _, none | none, some _ => false
    | none, none =>
      match x.wording?, y.wording? with
      | some s, some t => s = t
      | some _, none | none, some _ => false
      | none, none =>
        match x.numeral?, y.numeral? with
        | some a, some b => a = b && a ≠ .nan
        | _, _ => false

/-- Whether the values of two lists are one key each. -/
def sameKeys : List Payload → List Payload → Bool
  | [], [] => true
  | x :: xs, y :: ys => sameKey x y && sameKeys xs ys
  | _, _ => false

end

/-- A map with one more entry. A known key keeps its place and its form. -/
def putEntry (key value : Payload) : List (Payload × Payload) → List (Payload × Payload)
  | [] => [(key, value)]
  | (k, x) :: rest => if k.sameKey key then (k, value) :: rest else (k, x) :: putEntry key value rest

/-- The map that pairs make when they are put in one after the other. -/
def mapOf (pairs : List (Payload × Payload)) : Payload :=
  map (pairs.foldl (fun entries (k, x) => putEntry k x entries) [])

mutual

/-- The JSON value of a payload: words and paths become texts, tuples arrays, and keys texts. -/
def toJson : Payload → Json
  | null => .null
  | bool b => .bool b
  | int n => .int n
  | number x => .number x
  | string s => .string s
  | symbol s => .string s.word
  | path p => .string p.toString
  | list items => .array (toJsons items)
  | tuple items => .array (toJsons items)
  | map entries => .object (Ordered.ofPairs (toFields entries))
  | thing _ form _ => .string form

/-- The JSON values of several payloads. -/
def toJsons : List Payload → List Json
  | [] => []
  | x :: xs => x.toJson :: toJsons xs

/-- The names and JSON values of several entries. -/
def toFields : List (Payload × Payload) → List (String × Json)
  | [] => []
  | (k, x) :: rest => (k.text, x.toJson) :: toFields rest

end

mutual

/-- The payload that a JSON value is. -/
def ofJson : Json → Payload
  | .null => null
  | .bool b => bool b
  | .int n => int n
  | .number x => number x
  | .string s => string s
  | .array items => list (ofJsons items)
  | .object fields => map (ofFields fields)

/-- The payloads that several JSON values are. -/
def ofJsons : List Json → List Payload
  | [] => []
  | x :: xs => ofJson x :: ofJsons xs

/-- The entries that several fields are. -/
def ofFields : List (String × Json) → List (Payload × Payload)
  | [] => []
  | (k, x) :: rest => (string k, ofJson x) :: ofFields rest

end

/-- The text of a payload as JSON. -/
def dump (indent : Option Nat) (x : Payload) : String := x.toJson.render indent

/-- What kind of value a payload is. -/
def sort : Payload → String
  | null => "NoneType"
  | bool _ => "bool"
  | int _ => "int"
  | number _ => "float"
  | string _ => "str"
  | symbol s => s.label
  | path _ => "PosixPath"
  | list _ => "list"
  | tuple _ => "tuple"
  | map _ => "dict"
  | thing kind _ _ => kind

end Payload

end TokenLint
