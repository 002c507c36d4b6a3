import TokenLint.Lexer.Lexeme
import TokenLint.Text.Line
import TokenLint.Token.Stream

/-!
# Tokens of a source

A lexer's output made lossless. Each lexeme covers a span of the source, found from its coordinates;
what lies between two spans becomes a span too, so that the spans tile the source from its start to its
end. A span's text is cut from the source and its place is counted over the text before it, so neither
depends on what the lexer says of them. Spans of white space that touch are one.

A lexeme never reaches back before the span in front of it, and one that covers nothing is left out. A
line ending is covered whole: it runs up to the next line, and takes in a carriage return before it.

## Main definitions

* `Span`: A stretch of a source with a kind.
* `lineStarts`, `offsetOf`: From coordinates to offsets.
* `Lexeme.bounds`: The stretch that a lexeme covers.
* `spansFrom`: The spans that tile the rest of a source.
* `mergeWhitespace`: Spans of white space joined where they touch.
* `Place`: A line and a column, with `Place.after` counting over a text.
* `tokensFrom`: The tokens of spans.
* `tokenize`: The token stream of a source.
-/

namespace TokenLint

/-- A stretch of a source, from one offset up to another, with a kind. -/
structure Span where
  /-- What it is. -/
  kind : Kind
  /-- The offset of its first character. -/
  start : Nat
  /-- The offset after its last character. -/
  stop : Nat
deriving DecidableEq, Repr

/-- The characters of a source between two offsets. -/
def slice (source : List Char) (start stop : Nat) : List Char :=
  (source.drop start).take (stop - start)

/-- The offsets, from `place` on, of the characters that follow a line feed. -/
def startsAfter : (place : Nat) → List Char → List Nat
  | _, [] => []
  | place, c :: cs =>
    if c = '\n' then (place + 1) :: startsAfter (place + 1) cs else startsAfter (place + 1) cs

/-- The offsets at which the lines of a text start. -/
def lineStarts (cs : List Char) : List Nat := 0 :: startsAfter 0 cs

/-- The offset that coordinates stand for in a text with given line starts: at most `size`, which is also
what a row past the end stands for. -/
def offsetOf (starts : List Nat) (size : Nat) (at_ : Coordinates) : Nat :=
  match starts[at_.row - 1]? with
  | some start => min (start + at_.column) size
  | none => size

/-- The stretch of a source that a lexeme covers when all before `cursor` is covered already. -/
def Lexeme.bounds (source : List Char) (starts : List Nat) (cursor : Nat) (l : Lexeme) : Nat × Nat :=
  let start := max (offsetOf starts source.length l.start) cursor
  if l.isTerminator then
    -- A lexer may leave the carriage return of a line ending out; nobody else has taken it then.
    let start := if cursor < start ∧ source[start - 1]? = some '\r' then start - 1 else start
    (start, offsetOf starts source.length ⟨l.start.row + 1, 0⟩)
  else (start, offsetOf starts source.length l.stop)

/-- The span between two offsets that no lexeme covers, if there is anything between them. -/
def gapSpan (source : List Char) (start stop : Nat) : List Span :=
  if start < stop then [⟨Kind.ofGap (slice source start stop), start, stop⟩] else []

/-- The spans that tile a source from `cursor` on. -/
def spansFrom (source : List Char) (starts : List Nat) : (cursor : Nat) → List Lexeme → List Span
  | cursor, [] => gapSpan source cursor source.length
  | cursor, l :: ls =>
    let (start, stop) := l.bounds source starts cursor
    -- A lexeme that covers nothing makes no span and moves nothing.
    if stop ≤ start then spansFrom source starts cursor ls
    else gapSpan source cursor start ++
      ⟨Kind.ofLexeme l.kind l.text, start, stop⟩ :: spansFrom source starts stop ls

/-- Spans with those of white space joined where they touch. -/
def mergeWhitespace : List Span → List Span
  | [] => []
  | s :: spans =>
    match mergeWhitespace spans with
    | [] => [s]
    | t :: rest =>
      if s.kind = .whitespace ∧ t.kind = .whitespace then ⟨.whitespace, s.start, t.stop⟩ :: rest
      else s :: t :: rest

/-- The spans that tile a source, by the output of a lexer that was given the source with its lone
carriage returns read as line feeds. -/
def spansOf (source : List Char) (lexemes : List Lexeme) : List Span :=
  mergeWhitespace (spansFrom source (lineStarts (Text.unifyReturns source)) 0 lexemes)

/-- A line and a column, both counted from one. -/
structure Place where
  /-- The line. -/
  line : Nat
  /-- The column. -/
  column : Nat
deriving DecidableEq, Repr

/-- The place of the first character. -/
def Place.origin : Place := ⟨1, 1⟩

/-- The place after a text that starts at a place. -/
def Place.after (p : Place) (text : List Char) : Place :=
  if text.contains '\n' then ⟨p.line + Text.breakCount text, (Text.lastLine text).length + 1⟩
  else ⟨p.line, p.column + text.length⟩

/-- The tokens of spans, the first of which is at a place and has a number. -/
def tokensFrom (path : Path) (source : List Char) : Place → (index : Nat) → List Span → List Token
  | _, _, [] => []
  | place, index, s :: spans =>
    let text := slice source s.start s.stop
    { kind := s.kind, text, line := place.line, column := place.column, index, path } ::
      tokensFrom path source (place.after text) (index + 1) spans

/-- A source that its lexer does not accept. -/
structure Rejection where
  /-- The file. -/
  path : Path
  /-- The line at fault, or zero. -/
  line : Int
  /-- What is wrong. -/
  message : String
deriving DecidableEq, Repr

/-- How a rejection reads. -/
def Rejection.text (r : Rejection) : String :=
  s!"Cannot tokenize {r.path} (line {r.line}): {r.message}"

/-- Why a source has no token stream. -/
inductive TokenizeFault where
  /-- Its lexer does not accept it. -/
  | rejected (r : Rejection)
  /-- Its lexer names a line that is no number. -/
  | badLine (fault : ConversionFault)
deriving DecidableEq, Repr

/-- The token stream of a source, by the output of its lexer. -/
def tokenize (path : Path) (source : List Char) (lexing : Lexing) : Except TokenizeFault TokenStream :=
  match lexing.fault with
  | some fault =>
    match fault.line with
    | .ok line => .error (.rejected ⟨path, line, fault.message⟩)
    | .error f => .error (.badLine f)
  | none => .ok (.ofTokens path (tokensFrom path source .origin 0 (spansOf source lexing.lexemes)))

end TokenLint
