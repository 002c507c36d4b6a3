import TokenLint.Number.Shortest
import TokenLint.Ordered
import TokenLint.Text.Digit
import TokenLint.Text.Quoted

/-!
# JSON

Values, their text, and the reading of text. An object keeps its fields in order. The writer puts a value
on one line, or breaks it over lines and indents by depth; only quotes, backslashes and control
characters are escaped. The reader takes any layout; of several fields with one name the last gives the
value and the first the place. A number without a point and an exponent is a whole number.

## Main definitions

* `Json`: The values.
* `Json.escape`, `Json.encodeString`: The text of a string.
* `Json.render`: The text of a value.
* `Json.parse?`: The value that a text is.
-/

namespace TokenLint

/-- A JSON value. -/
inductive Json where
  /-- No value. -/
  | null
  /-- A truth value. -/
  | bool (b : Bool)
  /-- A whole number. -/
  | int (n : Int)
  /-- A number with a fraction or an exponent. -/
  | number (x : Binary64)
  /-- A text. -/
  | string (s : String)
  /-- Several values in order. -/
  | array (items : List Json)
  /-- Several values by name, in order. -/
  | object (fields : List (String × Json))
deriving Repr

namespace Json

instance : Inhabited Json := ⟨null⟩

/-- The text of one character inside a string. -/
def escape (c : Char) : List Char :=
  if c = '"' then ['\\', '"']
  else if c = '\\' then ['\\', '\\']
  else if c = '\n' then ['\\', 'n']
  else if c = '\r' then ['\\', 'r']
  else if c = '\t' then ['\\', 't']
  else if c.toNat = 8 then ['\\', 'b']
  else if c.toNat = 12 then ['\\', 'f']
  else if c.toNat < 0x20 then '\\' :: 'u' :: Text.hexText 4 c.toNat
  else [c]

/-- The text of a string. -/
def encodeString (s : String) : List Char :=
  '"' :: s.toList.flatMap escape ++ ['"']

/-- What separates things inside brackets: a line break and the indentation of a depth, or `inline` when
all is on one line. -/
def layout (indent : Option Nat) (depth : Nat) (inline : List Char) : List Char :=
  match indent with
  | some n => '\n' :: List.replicate (n * depth) ' '
  | none => inline

mutual

/-- The text of a value that stands at a depth. -/
def renderAt (indent : Option Nat) (depth : Nat) : Json → List Char
  | null => "null".toList
  | bool true => "true".toList
  | bool false => "false".toList
  | int n => (toString n).toList
  | number x => (x.render .data).toList
  | string s => encodeString s
  | array [] => ['[', ']']
  | array (x :: xs) =>
    '[' :: layout indent (depth + 1) [] ++ renderAt indent (depth + 1) x ++
      renderItems indent (depth + 1) xs ++ layout indent depth [] ++ [']']
  | object [] => ['\x7b', '\x7d']
  | object ((k, x) :: fields) =>
    '\x7b' :: layout indent (depth + 1) [] ++ encodeString k ++ [':', ' '] ++
      renderAt indent (depth + 1) x ++ renderFields indent (depth + 1) fields ++
      layout indent depth [] ++ ['\x7d']

/-- The text of the items after the first. -/
def renderItems (indent : Option Nat) (depth : Nat) : List Json → List Char
  | [] => []
  | x :: xs => ',' :: layout indent depth [' '] ++ renderAt indent depth x ++ renderItems indent depth xs

/-- The text of the fields after the first. -/
def renderFields (indent : Option Nat) (depth : Nat) : List (String × Json) → List Char
  | [] => []
  | (k, x) :: fields =>
    ',' :: layout indent depth [' '] ++ encodeString k ++ [':', ' '] ++ renderAt indent depth x ++
      renderFields indent depth fields

end

/-- The text of a value: broken over lines and indented by a number of spaces, or on one line. -/
def render (indent : Option Nat) (x : Json) : String := String.ofList (x.renderAt indent 0)

/-- The text after the white space that may stand between things. -/
def skipSpace (cs : List Char) : List Char :=
  cs.dropWhile fun c => c == ' ' || c == '\n' || c == '\r' || c == '\t'

/-- The number that four hexadecimal digits are, and what follows them. -/
def hexQuad? : List Char → Option (Nat × List Char)
  | a :: b :: c :: d :: cs => do
    let digits ← [a, b, c, d].mapM Text.hexDigit?
    return (Text.ofDigits 16 digits, cs)
  | _ => none

/-- The character that an escape stands for, and what follows it. Two halves of a pair are one character;
a half alone is the replacement character. -/
def readEscape? : List Char → Option (Char × List Char)
  | 'u' :: cs => do
    let (high, rest) ← hexQuad? cs
    if 0xD800 ≤ high ∧ high < 0xDC00 then
      match rest with
      | '\\' :: 'u' :: more =>
        match hexQuad? more with
        | some (low, after) =>
          if 0xDC00 ≤ low ∧ low < 0xE000 then
            return (Char.ofNat (0x10000 + (high - 0xD800) * 0x400 + (low - 0xDC00)), after)
          else return ('\uFFFD', rest)
        | none => return ('\uFFFD', rest)
      | _ => return ('\uFFFD', rest)
    else if 0xDC00 ≤ high ∧ high < 0xE000 then return ('\uFFFD', rest)
    else return (Char.ofNat high, rest)
  | '"' :: cs => some ('"', cs)
  | '\\' :: cs => some ('\\', cs)
  | '/' :: cs => some ('/', cs)
  | 'b' :: cs => some (Char.ofNat 8, cs)
  | 'f' :: cs => some (Char.ofNat 12, cs)
  | 'n' :: cs => some ('\n', cs)
  | 'r' :: cs => some ('\r', cs)
  | 't' :: cs => some ('\t', cs)
  | _ => none

/-- The rest of a string up to its closing quote, and what follows that. The bound `fuel` is enough if no
text is longer. -/
def readString? : (fuel : Nat) → List Char → Option (List Char × List Char)
  | 0, _ => none
  | _, [] => none
  | fuel + 1, c :: cs =>
    if c = '"' then some ([], cs)
    else if c = '\\' then do
      let (e, rest) ← readEscape? cs
      let (more, after) ← readString? fuel rest
      return (e :: more, after)
    else if c.toNat < 0x20 then none
    else do
      let (more, after) ← readString? fuel cs
      return (c :: more, after)

/-- The digits that a text begins with, and what follows them. -/
def spanDigits (cs : List Char) : List Nat × List Char :=
  let digits := cs.takeWhile Char.isDigit
  (digits.filterMap Text.asciiDigit?, cs.drop digits.length)

/-- The number that a text begins with, and what follows it. -/
def readNumber? (cs : List Char) : Option (Json × List Char) :=
  let negative := cs.head? = some '-'
  let (whole, rest) := spanDigits (if negative then cs.drop 1 else cs)
  if whole.isEmpty ∨ (whole.head? = some 0 ∧ 1 < whole.length) then none
  else
    let (fraction, rest) := match rest with
      | '.' :: more =>
        let (digits, after) := spanDigits more
        if digits.isEmpty then (none, rest) else (some digits, after)
      | _ => (none, rest)
    let (exponent, rest) := match rest with
      | 'e' :: more | 'E' :: more =>
        let (down, more) := match more with
          | '-' :: m => (true, m)
          | '+' :: m => (false, m)
          | m => (false, m)
        let (digits, after) := spanDigits more
        if digits.isEmpty then (none, rest)
        else (some (Binary64.signed down (Text.ofDigits 10 digits)), after)
      | _ => (none, rest)
    match fraction, exponent with
    | none, none => some (int (Binary64.signed negative (Text.ofDigits 10 whole)), rest)
    | _, _ =>
      let digits := whole ++ fraction.getD []
      let power := exponent.getD 0 - (fraction.getD []).length
      some (number (.ofDecimal negative (Text.ofDigits 10 digits) power), rest)

/-- The value that one of a few fixed words stands for, and what follows the word. -/
def readWord? (cs : List Char) : Option (Json × List Char) :=
  let words : List (String × Json) :=
    [("null", null), ("true", bool true), ("false", bool false), ("NaN", number .nan),
      ("Infinity", number (.infinite false)), ("-Infinity", number (.infinite true))]
  words.findSome? fun (w, x) => if w.toList.isPrefixOf cs then some (x, cs.drop w.length) else none

mutual

/-- The value that a text begins with, and what follows it. -/
def readValue? : (fuel : Nat) → List Char → Option (Json × List Char)
  | 0, _ => none
  | fuel + 1, cs =>
    match skipSpace cs with
    | '"' :: rest => do
      let (s, after) ← readString? fuel rest
      return (string (String.ofList s), after)
    | '[' :: rest =>
      match skipSpace rest with
      | ']' :: after => some (array [], after)
      | rest => do
        let (items, after) ← readItems? fuel rest
        return (array items, after)
    | '\x7b' :: rest =>
      match skipSpace rest with
      | '\x7d' :: after => some (object [], after)
      | rest => do
        let (fields, after) ← readFields? fuel rest
        return (object (Ordered.ofPairs fields), after)
    | cs => readWord? cs <|> readNumber? cs

/-- The items of an array up to its closing bracket, and what follows that. -/
def readItems? : (fuel : Nat) → List Char → Option (List Json × List Char)
  | 0, _ => none
  | fuel + 1, cs => do
    let (x, rest) ← readValue? fuel cs
    match skipSpace rest with
    | ']' :: after => return ([x], after)
    | ',' :: rest =>
      let (xs, after) ← readItems? fuel rest
      return (x :: xs, after)
    | _ => none

/-- The fields of an object up to its closing brace, and what follows that. -/
def readFields? : (fuel : Nat) → List Char → Option (List (String × Json) × List Char)
  | 0, _ => none
  | fuel + 1, cs => do
    match skipSpace cs with
    | '"' :: rest =>
      let (k, rest) ← readString? fuel rest
      match skipSpace rest with
      | ':' :: rest =>
        let (x, rest) ← readValue? fuel rest
        match skipSpace rest with
        | '\x7d' :: after => return ([(String.ofList k, x)], after)
        | ',' :: rest =>
          let (fields, after) ← readFields? fuel rest
          return ((String.ofList k, x) :: fields, after)
        | _ => none
      | _ => none
    | _ => none

end

/-- The value that a text is. -/
def parse? (s : String) : Option Json := do
  let cs := s.toList
  let (x, rest) ← readValue? (cs.length + 1) cs
  if (skipSpace rest).isEmpty then return x else none

/-- The value of a field of an object. -/
def field? (name : String) : Json → Option Json
  | object fields => Ordered.get? name fields
  | _ => none

end Json

end TokenLint
