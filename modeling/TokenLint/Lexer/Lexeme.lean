import TokenLint.Data.Conversion
import TokenLint.Token.Kind

/-!
# Lexemes

What a lexer hands over: lexemes with their coordinates, and perhaps a fault after them. Rows count from
one and columns from zero. Nothing is assumed of a lexer; its coordinates may leave gaps, overlap, go
backwards or point outside the source.

## Main definitions

* `Coordinates`: A row and a column.
* `Lexeme`: One piece of a lexer's output.
* `LexFault`: How a lexer gives up.
* `Lexing`: The whole output of a lexer.
-/

namespace TokenLint

/-- A row, counted from one, and a column, counted from zero. -/
structure Coordinates where
  /-- The row. -/
  row : Nat
  /-- The column. -/
  column : Nat
deriving DecidableEq, Repr

/-- One piece of a lexer's output. -/
structure Lexeme where
  /-- What the lexer calls it. -/
  kind : Kind
  /-- The characters that the lexer says it has. -/
  text : List Char
  /-- Where it starts. -/
  start : Coordinates
  /-- Where it stops. -/
  stop : Coordinates
deriving DecidableEq, Repr

/-- How a lexer gives up. -/
inductive LexFault where
  /-- It refuses the source, perhaps at a line. -/
  | refused (message : String) (line : Option Int)
  /-- It cannot go on. What it says of that is a list whose first item is a message and whose second is a
  place, if they are there. -/
  | stuck (account : List Payload)
deriving Repr

namespace LexFault

/-- What a fault says. -/
def message : LexFault → String
  | refused message _ => message
  | stuck (first :: _) => first.text
  | stuck [] => ""

/-- The line that a fault names, or zero. A place is a tuple that begins with its line; anything else in
its stead names no line. -/
def line : LexFault → Except ConversionFault Int
  | refused _ line => .ok (line.getD 0)
  | stuck (_ :: .tuple (first :: _) :: _) => first.asWhole
  | stuck _ => .ok 0

end LexFault

/-- The whole output of a lexer. -/
structure Lexing where
  /-- The lexemes, in the order of their arrival. -/
  lexemes : List Lexeme
  /-- How the lexer gave up, if it did. -/
  fault : Option LexFault
deriving Repr

/-- Whether a lexeme stands for a line ending that is there in the source. -/
def Lexeme.isTerminator (l : Lexeme) : Bool :=
  (l.kind = .newline || l.kind = .nl) && !l.text.isEmpty

end TokenLint
