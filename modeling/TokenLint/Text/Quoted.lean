import TokenLint.Text.Digit
import TokenLint.Text.Printable

/-!
# Quoted text

A text shown between quotes, so that a reader can tell its ends and every character in it. The quote is
a single one unless the text has single quotes and no double ones. The quote itself and the backslash
are escaped by a backslash; a character without a printed form is shown by a short escape if it has
one, and otherwise by its code point in two, four or eight hexadecimal digits.

## Main definitions

* `hexText`: A number in hexadecimal digits, padded to a width.
* `quoteFor`: The quote that a text is shown in.
* `escapeChar`: How one character is shown between given quotes.
* `quoted`: The text between its quotes.
-/

namespace TokenLint

namespace Text

/-- The lower-case hexadecimal digits of a number, at least `width` of them. -/
def hexText (width n : Nat) : List Char :=
  let digits := Nat.toDigits 16 n
  List.replicate (width - digits.length) '0' ++ digits

/-- Single quotes, unless the text has some and has no double ones. -/
def quoteFor (cs : List Char) : Char :=
  if cs.contains '\'' && !cs.contains '"' then '"' else '\''

/-- How a character is shown between the quotes `q`. -/
def escapeChar (q c : Char) : List Char :=
  if c = q ∨ c = '\\' then ['\\', c]
  else if c = '\n' then ['\\', 'n']
  else if c = '\r' then ['\\', 'r']
  else if c = '\t' then ['\\', 't']
  else if isPrintable c then [c]
  else if c.toNat < 0x100 then '\\' :: 'x' :: hexText 2 c.toNat
  else if c.toNat < 0x10000 then '\\' :: 'u' :: hexText 4 c.toNat
  else '\\' :: 'U' :: hexText 8 c.toNat

/-- The text between quotes, with escapes where they are needed. -/
def quoted (s : String) : String :=
  let q := quoteFor s.toList
  String.ofList ([q] ++ s.toList.flatMap (escapeChar q) ++ [q])

end Text

end TokenLint
