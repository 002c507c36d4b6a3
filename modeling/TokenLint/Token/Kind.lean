import TokenLint.Text.Blank
import TokenLint.Token.Operator

/-!
# Token kinds

What a token is. The lexer's own kinds are refined where rules care: an operator has its exact kind, a
name that is a keyword is told apart, and line ends that end no statement count as white space. Text that
the lexer passes over has kinds of its own. Kinds have numbers too, and a number without a kind still
makes one.

## Main definitions

* `Kind`: The kinds.
* `Kind.name`: The name of a kind.
* `Kind.ofNumber`, `Kind.ofName?`: The kind with a number or a name.
* `Kind.ofLexeme`: The kind of a token that the lexer calls by one of its own kinds.
* `Kind.ofGap`: The kind of text that the lexer passed over.
-/

namespace TokenLint

/-- What a token is. -/
inductive Kind where
  /-- The end of the source. -/
  | endMarker
  /-- A name that is no keyword. -/
  | name
  /-- A number. -/
  | number
  /-- A string. -/
  | string
  /-- The end of a statement's line. -/
  | newline
  /-- Deeper indentation. -/
  | indent
  /-- The end of an indented block. -/
  | dedent
  /-- An operator of a known spelling. -/
  | operator (o : Operator)
  /-- An operator of no known spelling. -/
  | op
  /-- The word that awaits, where the lexer tells it apart. -/
  | await
  /-- The word for asynchronous code, where the lexer tells it apart. -/
  | async
  /-- A comment that silences type checking. -/
  | typeIgnore
  /-- A comment that gives a type. -/
  | typeComment
  /-- A word that is a keyword in places, where the lexer tells it apart. -/
  | lexerSoftKeyword
  /-- Text that is no token. -/
  | errorToken
  /-- A comment. -/
  | comment
  /-- A line end that ends no statement. -/
  | nl
  /-- The encoding of the source. -/
  | encoding
  /-- The number of kinds that the lexer has. -/
  | kindCount
  /-- The number above those of the lexer's kinds. -/
  | kindLimit
  /-- White space between tokens, line ends included. -/
  | whitespace
  /-- White space with a line join in it. -/
  | continuation
  /-- A keyword. -/
  | keyword
  /-- A word that is a keyword in places. -/
  | softKeyword
  /-- A number that no other kind has. -/
  | other (number : Int)
deriving DecidableEq, Repr

namespace Kind

instance : Inhabited Kind := ⟨endMarker⟩

/-- The lexer's kinds from number zero on. -/
def lexerKinds : List Kind :=
  [endMarker, name, number, string, newline, indent, dedent] ++ Operator.all.map operator ++
    [op, await, async, typeIgnore, typeComment, lexerSoftKeyword, errorToken, comment, nl, encoding,
      kindCount]

/-- The kinds from number 256 on. -/
def ownKinds : List Kind := [kindLimit, whitespace, continuation, keyword, softKeyword]

/-- The number of the first kind that is not the lexer's. -/
def limit : Nat := 256

/-- The name of a kind. -/
def label : Kind → String
  | endMarker => "ENDMARKER"
  | name => "NAME"
  | number => "NUMBER"
  | string => "STRING"
  | newline => "NEWLINE"
  | indent => "INDENT"
  | dedent => "DEDENT"
  | operator o => o.name
  | op => "OP"
  | await => "AWAIT"
  | async => "ASYNC"
  | typeIgnore => "TYPE_IGNORE"
  | typeComment => "TYPE_COMMENT"
  | lexerSoftKeyword => "SOFT_KEYWORD"
  | errorToken => "ERRORTOKEN"
  | comment => "COMMENT"
  | nl => "NL"
  | encoding => "ENCODING"
  | kindCount => "N_TOKENS"
  | kindLimit => "NT_OFFSET"
  | whitespace => "WHITESPACE"
  | continuation => "CONTINUATION"
  | keyword => "KEYWORD"
  | softKeyword => "SOFT_KEYWORD"
  | other n => s!"UNKNOWN({n})"

/-- The kind with a number. -/
def ofNumber (n : Int) : Kind :=
  if n < 0 then other n
  else if n < limit then lexerKinds.getD n.toNat (other n)
  else ownKinds.getD (n.toNat - limit) (other n)

/-- The kind with a name. Of two kinds with one name it is the one that is not the lexer's. -/
def ofName? (s : String) : Option Kind :=
  (ownKinds ++ lexerKinds).find? (·.label == s)

/-- Whether the lexer itself can give a token this kind. -/
def isLexical : Kind → Bool
  | kindLimit | whitespace | continuation | keyword | softKeyword => false
  | other n => n < limit
  | _ => true

/-- The keywords. -/
def keywords : List String :=
  ["False", "None", "True", "and", "as", "assert", "async", "await", "break", "class", "continue", "def",
    "del", "elif", "else", "except", "finally", "for", "from", "global", "if", "import", "in", "is",
    "lambda", "nonlocal", "not", "or", "pass", "raise", "return", "try", "while", "with", "yield"]

/-- The words that are keywords in places. -/
def softKeywords : List String := ["_", "case", "match"]

/-- The kind of a token that the lexer calls by one of its own kinds. -/
def ofLexeme (kind : Kind) (text : List Char) : Kind :=
  match kind with
  | name =>
    if keywords.contains (String.ofList text) then keyword
    else if softKeywords.contains (String.ofList text) then softKeyword
    else name
  | op => match Operator.ofText? text with
    | some o => operator o
    | none => op
  | nl => whitespace
  | kind => kind

/-- The kind of text that the lexer passed over: white space, white space with backslashes in it, or
something that is no token. -/
def ofGap (text : List Char) : Kind :=
  if Text.allBlank text then whitespace
  else if Text.allBlank (text.filter (· != '\\')) then continuation
  else errorToken

end Kind

end TokenLint
