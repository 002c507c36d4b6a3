import TokenLint.Text.Digit

/-!
# Texts and keys in TOML

A text stands between quotation marks, with escapes, or between apostrophes, as it is. Tripled marks let
it run over lines. A key is one or more names with points between them; a name is a row of plain
characters, or a text of one line.

Each reader takes the characters after an opening mark and gives what it read and the characters that
follow.

## Main definitions

* `isIllegal`: The characters that no text may hold as they are.
* `basicBody?`: The rest of a text with escapes.
* `literalBody?`: The rest of a text without escapes.
* `string?`: A text with its marks.
* `key?`: A key.
-/

namespace TokenLint

namespace Toml

/-- Whether a character is a space or a tab. -/
def isSpacing (c : Char) : Bool := c == ' ' || c == '\t'

/-- Whether a character is a space, a tab or a line feed. -/
def isSpacingOrBreak (c : Char) : Bool := isSpacing c || c == '\n'

/-- Whether a character may not stand for itself. Line feeds may where texts run over lines. -/
def isIllegal (multiline : Bool) (c : Char) : Bool :=
  (c.toNat < 0x20 || c.toNat == 0x7F) && c != '\t' && !(multiline && c == '\n')

/-- A character given by the digits of its code point. -/
def codePoint? (count : Nat) (cs : List Char) : Option (List Char × List Char) := do
  let digits ← (cs.take count).mapM Text.hexDigit?
  let n := Text.ofDigits 16 digits
  if digits.length = count ∧ n.isValidChar then some ([Char.ofNat n], cs.drop count) else none

/-- What an escape stands for, given the characters after its backslash. Where texts run over lines, a
backslash at the end of one joins it to the next, without the white space at its start. -/
def escape? (multiline : Bool) : List Char → Option (List Char × List Char)
  | 'b' :: cs => some (['\x08'], cs)
  | 't' :: cs => some (['\t'], cs)
  | 'n' :: cs => some (['\n'], cs)
  | 'f' :: cs => some (['\x0c'], cs)
  | 'r' :: cs => some (['\r'], cs)
  | '"' :: cs => some (['"'], cs)
  | '\\' :: cs => some (['\\'], cs)
  | 'u' :: cs => codePoint? 4 cs
  | 'U' :: cs => codePoint? 8 cs
  | cs =>
    if multiline then
      match cs.dropWhile isSpacing with
      | '\n' :: rest => some ([], rest.dropWhile isSpacingOrBreak)
      | _ => none
    else none

/-- The rest of a text with escapes, up to its closing mark. -/
def basicBody? (multiline : Bool) : (fuel : Nat) → List Char → Option (List Char × List Char)
  | 0, _ => none
  | _, [] => none
  | fuel + 1, '\\' :: cs => do
    let (text, rest) ← escape? multiline cs
    let (more, rest) ← basicBody? multiline fuel rest
    return (text ++ more, rest)
  | fuel + 1, c :: cs =>
    let mark := if multiline then ['"', '"', '"'] else ['"']
    if mark.isPrefixOf (c :: cs) then some ([], (c :: cs).drop mark.length)
    else if isIllegal multiline c then none
    else do
      let (more, rest) ← basicBody? multiline fuel cs
      return (c :: more, rest)

/-- The rest of a text without escapes, up to its closing mark. -/
def literalBody? (multiline : Bool) : List Char → Option (List Char × List Char)
  | [] => none
  | c :: cs =>
    let mark := if multiline then ['\'', '\'', '\''] else ['\'']
    if mark.isPrefixOf (c :: cs) then some ([], (c :: cs).drop mark.length)
    else if isIllegal multiline c then none
    else do
      let (more, rest) ← literalBody? multiline cs
      return (c :: more, rest)

/-- The rest of a text of one kind. -/
def body? (mark : Char) (multiline : Bool) (cs : List Char) : Option (List Char × List Char) :=
  if mark = '"' then basicBody? multiline (cs.length + 1) cs else literalBody? multiline cs

/-- A text over lines, given the characters after its opening marks. A line feed at its start does not
count, and up to two marks before the closing ones do. -/
def multiline? (mark : Char) (cs : List Char) : Option (List Char × List Char) := do
  let cs := match cs with
    | '\n' :: rest => rest
    | _ => cs
  let (text, rest) ← body? mark true cs
  let extra := (rest.takeWhile (· == mark)).take 2
  return (text ++ extra, rest.drop extra.length)

/-- A text of one line that starts here. -/
def lineString? : List Char → Option (List Char × List Char)
  | c :: cs => if c = '"' ∨ c = '\'' then body? c false cs else none
  | [] => none

/-- A text that starts here. -/
def string? : List Char → Option (List Char × List Char)
  | c :: c' :: c'' :: cs =>
    if (c = '"' ∨ c = '\'') ∧ c' = c ∧ c'' = c then multiline? c cs
    else lineString? (c :: c' :: c'' :: cs)
  | cs => lineString? cs

/-- Whether a character may stand in a name without marks. -/
def isBare (c : Char) : Bool := c.isAlphanum || c == '-' || c == '_'

/-- A name that starts here. -/
def name? (cs : List Char) : Option (String × List Char) :=
  let plain := cs.takeWhile isBare
  if plain.isEmpty then (lineString? cs).map fun (text, rest) => (String.ofList text, rest)
  else some (String.ofList plain, cs.drop plain.length)

/-- The names of a key, of which there are no more than `fuel`. -/
def names? : (fuel : Nat) → List Char → Option (List String × List Char)
  | 0, _ => none
  | fuel + 1, cs => do
    let (name, rest) ← name? cs
    match rest.dropWhile isSpacing with
    | '.' :: rest =>
      let (more, rest) ← names? fuel (rest.dropWhile isSpacing)
      return (name :: more, rest)
    | rest => return ([name], rest)

/-- A key that starts here. White space after it is left out. -/
def key? (cs : List Char) : Option (List String × List Char) := names? (cs.length + 1) cs

end Toml

end TokenLint
