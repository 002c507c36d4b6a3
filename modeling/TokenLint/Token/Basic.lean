import TokenLint.Path
import TokenLint.Text.Blank
import TokenLint.Token.Kind

/-!
# Tokens

A piece of a source with its kind, its place and its number in the source. The place is that of its first
character. Readers look for white space after the line ends it begins with, and that is its effective
place.

## Main definitions

* `Token`: The tokens.
* `Token.agrees`: Whether two tokens are equal wherever they come from.
* `Token.effectiveLine`, `Token.effectiveColumn`: Where a reader looks for a token.
* `Token.trailingBlanks`: The end of a token's text that indents what follows it.
-/

namespace TokenLint

/-- A piece of a source. -/
structure Token where
  /-- What it is. -/
  kind : Kind
  /-- Its characters. -/
  text : List Char
  /-- The line of its first character, counted from one. -/
  line : Int
  /-- The column of its first character, counted from one. -/
  column : Int
  /-- Its number among the tokens of the source. -/
  index : Int
  /-- The file that the source is in. -/
  path : Path
deriving DecidableEq, Repr

namespace Token

/-- Whether two tokens are equal, the files they are in aside. -/
def agrees (a b : Token) : Bool :=
  a.kind = b.kind && a.text = b.text && a.line = b.line && a.column = b.column && a.index = b.index

/-- Whether a token is white space. -/
def isWhitespace (t : Token) : Bool := t.kind = .whitespace

/-- The number of line feeds that a token begins with. -/
def leadingBreaks (t : Token) : Nat := (t.text.takeWhile (· == '\n')).length

/-- The line where a reader looks for a token. -/
def effectiveLine (t : Token) : Int :=
  if t.isWhitespace then t.line + t.leadingBreaks else t.line

/-- The column where a reader looks for a token. -/
def effectiveColumn (t : Token) : Int :=
  if t.isWhitespace && 0 < t.leadingBreaks then 1 else t.column

/-- The number of a token's characters. -/
def length (t : Token) : Nat := t.text.length

/-- The number of line feeds in a token. -/
def breakCount (t : Token) : Nat := Text.breakCount t.text

/-- Whether a token has a line feed. -/
def hasBreak (t : Token) : Bool := t.text.contains '\n'

theorem hasBreak_iff (t : Token) : t.hasBreak = true ↔ '\n' ∈ t.text := List.contains_iff_mem

/-- Whether a token has a space, a tab or a line ending. -/
def hasWhitespace (t : Token) : Bool :=
  t.text.any fun c => c == '\r' || c == '\n' || c == '\t' || c == ' '

/-- Whether a character can stand at the end of a line without being seen. -/
def isUnseen (c : Char) : Bool :=
  c == ' ' || c == '\t' || c == '\r' || c == '\x0c' || c == '\x0b'

/-- What follows a token's last line feed, or the unseen characters at the end of a token without one. -/
def trailingBlanks (t : Token) : List Char :=
  if t.hasBreak then Text.lastLine t.text
  else (t.text.reverse.takeWhile isUnseen).reverse

end Token

end TokenLint
