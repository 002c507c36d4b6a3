import TokenLint.Toml.Document
import TokenLint.Toml.Quoting
import TokenLint.Toml.Scalar

/-!
# Reading TOML

A document is a row of statements, one a line: a pair, a header, or nothing, each perhaps with a comment
after it.

## Main definitions

* `value`: A value that starts here.
* `statement`: One statement.
* `read`: The table that a text is.
-/

namespace TokenLint

namespace Toml

/-- What was found, or else a fault. -/
def require {α : Type} : Option α → Except ScalarFault α
  | some a => .ok a
  | none => .error .malformed

/-- The rest of a line after a comment that may start here. -/
def skipComment? : List Char → Option (List Char)
  | '#' :: cs =>
    let comment := cs.takeWhile (· != '\n')
    if comment.any (isIllegal false) then none else some (cs.drop comment.length)
  | cs => some cs

/-- What follows any number of blanks, line feeds and comments. -/
def skipBlanks? : (fuel : Nat) → List Char → Option (List Char)
  | 0, _ => none
  | fuel + 1, cs =>
    match cs.dropWhile isSpacingOrBreak with
    | '#' :: rest => do
      let rest ← skipComment? ('#' :: rest)
      skipBlanks? fuel rest
    | rest => some rest

/-- What follows the blanks, line feeds and comments between the elements of an array. -/
def skipFill (cs : List Char) : Except ScalarFault (List Char) := require (skipBlanks? (cs.length + 1) cs)

/-- A value of one piece that starts here. -/
def scalar (cs : List Char) : Except ScalarFault (Setting × List Char) :=
  match cs with
  | 't' :: 'r' :: 'u' :: 'e' :: rest => .ok (.bool true, rest)
  | 'f' :: 'a' :: 'l' :: 's' :: 'e' :: rest => .ok (.bool false, rest)
  | _ =>
    match moment? cs with
    | some (found, rest) => found.map (·, rest)
    | none =>
      match number? cs with
      | some (found, rest) => found.map (·, rest)
      | none => .error .malformed

/-- How deep values may be nested, where an array counts as `arrayDepth` and a table as `tableDepth`. -/
def depthLimit : Nat := 986

/-- What an array counts as. -/
def arrayDepth : Nat := 2

/-- What a table in one line counts as. -/
def tableDepth : Nat := 3

/-- The depth that is left inside of what counts as so much. -/
def within (room depth : Nat) : Except ScalarFault Nat :=
  if depth ≤ room then .ok (room - depth) else .error .tooDeep

mutual

/-- A value that starts here, where so much depth is left. -/
def value : (fuel : Nat) → (room : Nat) → List Char → Except ScalarFault (Setting × List Char)
  | 0, _, _ => .error .malformed
  | fuel + 1, room, cs =>
    match cs with
    | '[' :: rest => do
      let room ← within room arrayDepth
      let rest ← skipFill rest
      let (items, rest) ← elements fuel room rest
      return (.list items, rest)
    | '\x7b' :: rest =>
      match rest.dropWhile isSpacing with
      | '\x7d' :: rest => .ok (.table [], rest)
      | rest => do
        let room ← within room tableDepth
        let (table, rest) ← members fuel room [] [] rest
        return (.table table, rest)
    | '"' :: _ | '\'' :: _ => do
      let (text, rest) ← require (string? cs)
      return (.string (String.ofList text), rest)
    | _ => scalar cs

/-- The rest of an array. A comma may follow the last element. -/
def elements : (fuel : Nat) → (room : Nat) → List Char → Except ScalarFault (List Setting × List Char)
  | 0, _, _ => .error .malformed
  | fuel + 1, room, cs =>
    match cs with
    | ']' :: rest => .ok ([], rest)
    | _ => do
      let (item, rest) ← value fuel room cs
      match ← skipFill rest with
      | ']' :: rest => return ([item], rest)
      | ',' :: rest =>
        let rest ← skipFill rest
        let (items, rest) ← elements fuel room rest
        return (item :: items, rest)
      | _ => throw .malformed

/-- The rest of a table in one line, given what it holds and which of that is closed. -/
def members : (fuel : Nat) → (room : Nat) → List Key → Table → List Char →
    Except ScalarFault (Table × List Char)
  | 0, _, _, _, _ => .error .malformed
  | fuel + 1, room, closed, table, cs => do
    let (key, rest) ← require (key? cs)
    match rest with
    | '=' :: rest =>
      let (item, rest) ← value fuel room (rest.dropWhile isSpacing)
      if isBelow closed key then throw .malformed
      let (front, name) ← require (splitLast? key)
      let table ← require (alter? false (insert? name item) front table)
      match rest.dropWhile isSpacing with
      | '\x7d' :: rest => return (table, rest)
      | ',' :: rest =>
        let closed := if isComposite item then key :: closed else closed
        members fuel room closed table (rest.dropWhile isSpacing)
      | _ => throw .malformed
    | _ => throw .malformed

end

/-- The statement that starts here, put into a document. -/
def statement (d : Document) (cs : List Char) : Except ScalarFault (Document × List Char) :=
  match cs with
  | [] | '\n' :: _ | '#' :: _ => .ok (d, cs)
  | '[' :: '[' :: rest => do
    let (key, rest) ← require (key? (rest.dropWhile isSpacing))
    let d ← require (d.openElement? key)
    match rest with
    | ']' :: ']' :: rest => return (d, rest)
    | _ => throw .malformed
  | '[' :: rest => do
    let (key, rest) ← require (key? (rest.dropWhile isSpacing))
    let d ← require (d.openTable? key)
    match rest with
    | ']' :: rest => return (d, rest)
    | _ => throw .malformed
  | _ => do
    let (key, rest) ← require (key? cs)
    match rest with
    | '=' :: rest =>
      let (item, rest) ← value (rest.length + 1) depthLimit (rest.dropWhile isSpacing)
      let d ← require (d.pair? key item)
      return (d, rest)
    | _ => throw .malformed

/-- The statements of the lines that start here, of which there are no more than `fuel`. -/
def statements : (fuel : Nat) → Document → List Char → Except ScalarFault Document
  | 0, _, _ => .error .malformed
  | fuel + 1, d, cs => do
    let (d, rest) ← statement d (cs.dropWhile isSpacing)
    match ← require (skipComment? (rest.dropWhile isSpacing)) with
    | [] => return d
    | '\n' :: rest => statements fuel d rest
    | _ => throw .malformed

/-- The table that a text is. -/
def read (text : List Char) : Except ScalarFault Table :=
  (statements (text.length + 1) .empty text).map (·.table)

end Toml

end TokenLint
