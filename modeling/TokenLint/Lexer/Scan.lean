import TokenLint.Lexer.Lexeme
import TokenLint.Text.Digit

/-!
# Scanning single lexemes

The longest lexeme at the front of a line of Python. Comments run up to the end of the line; a string may
have a prefix and may go on in the next line; numbers have digits with single underscores between them,
a radix or a fraction and an exponent; operators are taken as long as possible; names are runs of word
characters, and every character beyond ASCII is one.

## Main definitions

* `closeString`: The rest of a string up to its closing quotes.
* `stringQuote?`: The quotes of a string, if one starts here.
* `numberLength`: The length of the number that starts here.
* `Scan`: What is at the front of a line, and `scan`, which tells.
-/

namespace TokenLint

namespace Lexer

/-- Whether a character is space inside a line. -/
def isSpacing (c : Char) : Bool := c == ' ' || c == '\t' || c == '\x0c'

/-- Whether a character ends a line. -/
def isLineEnd (c : Char) : Bool := c == '\r' || c == '\n'

/-- Whether a character can be part of a name. -/
def isWord (c : Char) : Bool := c.isAlphanum || c == '_' || 0x80 ≤ c.toNat

/-- The rest of a string up to its closing quotes, and what follows them. A backslash takes the next
character with it, unless that ends the line. -/
def closeString (quote : List Char) : List Char → Option (List Char × List Char)
  | [] => none
  | ['\\'] => none
  | '\\' :: c :: cs =>
    if c = '\n' then none
    else (closeString quote cs).map fun (inside, rest) => ('\\' :: c :: inside, rest)
  | c :: cs =>
    if quote.isPrefixOf (c :: cs) then some (quote, (c :: cs).drop quote.length)
    else (closeString quote cs).map fun (inside, rest) => (c :: inside, rest)

/-- Whether the end of a line is escaped by a backslash before it. -/
def escapesLineEnd : List Char → Bool
  | [] => false
  | ['\\', '\n'] => true
  | ['\\', '\r', '\n'] => true
  | '\\' :: _ :: cs => escapesLineEnd cs
  | _ :: cs => escapesLineEnd cs

/-- The letters that may stand before the quotes of a string. -/
def stringPrefixes : List String := ["", "r", "u", "b", "f", "br", "rb", "fr", "rf"]

/-- The quotes that a text begins with: three of a kind, or one. -/
def quoteAt? : List Char → Option (List Char)
  | c :: cs =>
    if c = '\'' ∨ c = '"' then
      if [c, c].isPrefixOf cs then some [c, c, c] else some [c]
    else none
  | [] => none

/-- The number of letters before the quotes of a string that starts here, and the quotes. -/
def stringQuote? (cs : List Char) : Option (Nat × List Char) := do
  let letters := cs.takeWhile Char.isAlpha
  let quote ← quoteAt? (cs.drop letters.length)
  if stringPrefixes.contains (String.ofList (letters.map Char.toLower)) then
    return (letters.length, quote)
  else none

/-- The length of a run of characters of a class in which single underscores may stand between two. The
flag says whether an underscore may come first. -/
def runLength (p : Char → Bool) : (lead : Bool) → List Char → Nat
  | _, [] => 0
  | lead, '_' :: c :: cs => if lead && p c then 2 + runLength p true cs else 0
  | _, c :: cs => if p c then 1 + runLength p true cs else 0

/-- The length of an exponent that starts here: its letter, perhaps a sign, and digits. -/
def exponentLength : List Char → Nat
  | c :: cs =>
    if c = 'e' ∨ c = 'E' then
      let signed := match cs with
        | '+' :: _ | '-' :: _ => 1
        | _ => 0
      match runLength Char.isDigit false (cs.drop signed) with
      | 0 => 0
      | n => 1 + signed + n
    else 0
  | [] => 0

/-- The class of digits that a letter after a zero announces. -/
def radixDigits? (c : Char) : Option (Char → Bool) :=
  if c = 'x' ∨ c = 'X' then some fun d => (Text.hexDigit? d).isSome
  else if c = 'o' ∨ c = 'O' then some fun d => '0' ≤ d && d ≤ '7'
  else if c = 'b' ∨ c = 'B' then some fun d => d == '0' || d == '1'
  else none

/-- The length of a number with a radix that starts here, or zero. -/
def radixLength : List Char → Nat
  | '0' :: c :: cs =>
    match radixDigits? c with
    | some p => match runLength p true cs with
      | 0 => 0
      | n => 2 + n
    | none => 0
  | _ => 0

/-- The length of a decimal number that starts here, or zero. -/
def decimalLength (cs : List Char) : Nat :=
  let whole := runLength Char.isDigit false cs
  let fraction := match cs.drop whole with
    | '.' :: rest =>
      let n := runLength Char.isDigit false rest
      if 0 < whole ∨ 0 < n then 1 + n else 0
    | _ => 0
  if whole + fraction = 0 then 0
  else
    let body := whole + fraction + exponentLength (cs.drop (whole + fraction))
    match cs.drop body with
    | c :: _ => if c = 'j' ∨ c = 'J' then body + 1 else body
    | [] => body

/-- The length of the number that starts here, or zero. -/
def numberLength (cs : List Char) : Nat :=
  match radixLength cs with
  | 0 => decimalLength cs
  | n => n

/-- What is at the front of a line. -/
inductive Scan where
  /-- A lexeme of so many characters. -/
  | lexeme (kind : Kind) (length : Nat)
  /-- The end of the line. -/
  | lineEnd (length : Nat)
  /-- A string that goes on in the next line. -/
  | openString (quote : List Char)
  /-- A backslash that joins the next line to this one. -/
  | lineJoin

/-- What a string with so many letters before its quotes comes to. -/
def scanString (cs : List Char) (letters : Nat) (quote : List Char) : Scan :=
  let body := cs.drop (letters + quote.length)
  match closeString quote body with
  | some (inside, _) => .lexeme .string (letters + quote.length + inside.length)
  | none =>
    if quote.length = 3 ∨ escapesLineEnd body then .openString quote
    else .lexeme .errorToken 1

/-- What is at the front of a line that does not begin with space. -/
def scan (cs : List Char) : Scan :=
  match cs with
  | '\\' :: '\n' :: _ | '\\' :: '\r' :: '\n' :: _ => .lineJoin
  | '\r' :: '\n' :: _ => .lineEnd 2
  | '\n' :: _ => .lineEnd 1
  | '#' :: _ => .lexeme .comment (cs.takeWhile (!isLineEnd ·)).length
  | _ =>
    match stringQuote? cs with
    | some (letters, quote) => scanString cs letters quote
    | none =>
      match numberLength cs with
      | n + 1 => .lexeme .number (n + 1)
      | 0 =>
        match Operator.longest? cs with
        | some o => .lexeme .op o.text.length
        | none =>
          match (cs.takeWhile isWord).length with
          | n + 1 => .lexeme .name (n + 1)
          | 0 => .lexeme .errorToken 1

end Lexer

end TokenLint
