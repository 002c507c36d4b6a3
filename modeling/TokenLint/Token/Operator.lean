/-!
# Operators

The operators and delimiters of Python, each with its spelling and the name of its kind.

## Main definitions

* `Operator`: The operators.
* `Operator.all`: All of them, in the order of their kind numbers.
* `Operator.text`: The spelling of an operator.
* `Operator.ofText?`: The operator with a spelling.
* `Operator.longest?`: The longest operator that a text begins with.
-/

namespace TokenLint

/-- An operator or delimiter. -/
inductive Operator where
  | leftParen | rightParen | leftBracket | rightBracket | colon | comma | semicolon | plus
  | minus | star | slash | bar | ampersand | less | greater | equal | dot | percent | leftBrace
  | rightBrace | equalEqual | notEqual | lessEqual | greaterEqual | tilde | circumflex
  | leftShift | rightShift | doubleStar | plusEqual | minusEqual | starEqual | slashEqual
  | percentEqual | ampersandEqual | barEqual | circumflexEqual | leftShiftEqual | rightShiftEqual
  | doubleStarEqual | doubleSlash | doubleSlashEqual | atSign | atEqual | arrow | ellipsis
  | colonEqual
deriving DecidableEq, Repr

namespace Operator

/-- All operators, in the order of their kind numbers. -/
def all : List Operator := [
  .leftParen, .rightParen, .leftBracket, .rightBracket, .colon, .comma, .semicolon, .plus,
  .minus, .star, .slash, .bar, .ampersand, .less, .greater, .equal, .dot, .percent, .leftBrace,
  .rightBrace, .equalEqual, .notEqual, .lessEqual, .greaterEqual, .tilde, .circumflex,
  .leftShift, .rightShift, .doubleStar, .plusEqual, .minusEqual, .starEqual, .slashEqual,
  .percentEqual, .ampersandEqual, .barEqual, .circumflexEqual, .leftShiftEqual, .rightShiftEqual,
  .doubleStarEqual, .doubleSlash, .doubleSlashEqual, .atSign, .atEqual, .arrow, .ellipsis,
  .colonEqual]

/-- The spelling of an operator. -/
def text : Operator → String
  | .leftParen => "("
  | .rightParen => ")"
  | .leftBracket => "["
  | .rightBracket => "]"
  | .colon => ":"
  | .comma => ","
  | .semicolon => ";"
  | .plus => "+"
  | .minus => "-"
  | .star => "*"
  | .slash => "/"
  | .bar => "|"
  | .ampersand => "&"
  | .less => "<"
  | .greater => ">"
  | .equal => "="
  | .dot => "."
  | .percent => "%"
  | .leftBrace => "\x7b"
  | .rightBrace => "\x7d"
  | .equalEqual => "=="
  | .notEqual => "!="
  | .lessEqual => "<="
  | .greaterEqual => ">="
  | .tilde => "~"
  | .circumflex => "^"
  | .leftShift => "<<"
  | .rightShift => ">>"
  | .doubleStar => "**"
  | .plusEqual => "+="
  | .minusEqual => "-="
  | .starEqual => "*="
  | .slashEqual => "/="
  | .percentEqual => "%="
  | .ampersandEqual => "&="
  | .barEqual => "|="
  | .circumflexEqual => "^="
  | .leftShiftEqual => "<<="
  | .rightShiftEqual => ">>="
  | .doubleStarEqual => "**="
  | .doubleSlash => "//"
  | .doubleSlashEqual => "//="
  | .atSign => "@"
  | .atEqual => "@="
  | .arrow => "->"
  | .ellipsis => "..."
  | .colonEqual => ":="

/-- The name of an operator's kind. -/
def name : Operator → String
  | .leftParen => "LPAR"
  | .rightParen => "RPAR"
  | .leftBracket => "LSQB"
  | .rightBracket => "RSQB"
  | .colon => "COLON"
  | .comma => "COMMA"
  | .semicolon => "SEMI"
  | .plus => "PLUS"
  | .minus => "MINUS"
  | .star => "STAR"
  | .slash => "SLASH"
  | .bar => "VBAR"
  | .ampersand => "AMPER"
  | .less => "LESS"
  | .greater => "GREATER"
  | .equal => "EQUAL"
  | .dot => "DOT"
  | .percent => "PERCENT"
  | .leftBrace => "LBRACE"
  | .rightBrace => "RBRACE"
  | .equalEqual => "EQEQUAL"
  | .notEqual => "NOTEQUAL"
  | .lessEqual => "LESSEQUAL"
  | .greaterEqual => "GREATEREQUAL"
  | .tilde => "TILDE"
  | .circumflex => "CIRCUMFLEX"
  | .leftShift => "LEFTSHIFT"
  | .rightShift => "RIGHTSHIFT"
  | .doubleStar => "DOUBLESTAR"
  | .plusEqual => "PLUSEQUAL"
  | .minusEqual => "MINEQUAL"
  | .starEqual => "STAREQUAL"
  | .slashEqual => "SLASHEQUAL"
  | .percentEqual => "PERCENTEQUAL"
  | .ampersandEqual => "AMPEREQUAL"
  | .barEqual => "VBAREQUAL"
  | .circumflexEqual => "CIRCUMFLEXEQUAL"
  | .leftShiftEqual => "LEFTSHIFTEQUAL"
  | .rightShiftEqual => "RIGHTSHIFTEQUAL"
  | .doubleStarEqual => "DOUBLESTAREQUAL"
  | .doubleSlash => "DOUBLESLASH"
  | .doubleSlashEqual => "DOUBLESLASHEQUAL"
  | .atSign => "AT"
  | .atEqual => "ATEQUAL"
  | .arrow => "RARROW"
  | .ellipsis => "ELLIPSIS"
  | .colonEqual => "COLONEQUAL"

/-- The operator with a spelling. -/
def ofText? (cs : List Char) : Option Operator :=
  all.find? fun o => o.text.toList == cs

/-- The longest operator that a text begins with. -/
def longest? (cs : List Char) : Option Operator :=
  ofText? (cs.take 3) <|> ofText? (cs.take 2) <|> ofText? (cs.take 1)

end Operator

end TokenLint
