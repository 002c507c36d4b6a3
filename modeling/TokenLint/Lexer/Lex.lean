import TokenLint.Lexer.Scan

/-!
# Lexing a source

The lexemes of a Python source, line by line. What reaches from one line into the next is the open
brackets, a line join, a string that is not closed yet, and the indentation of the blocks around. A line
that starts a statement is measured: deeper indentation opens a block, shallower indentation closes
blocks and must be that of one around. Blank lines and lines with only a comment are not measured, nor
are lines inside brackets.

## Main definitions

* `physicalLines`: The lines of a source with their line feeds.
* `Lexer.State`: What reaches from one line into the next.
* `Lexer.restOfLine`: The lexemes of a line from a column on.
* `Lexer.lexLine`: The lexemes of a line.
* `lex`: The output for a source.
-/

namespace TokenLint

namespace Lexer

/-- The lines of a source with their line feeds. The last has none if the source does not end in one. -/
def physicalLines : List Char → List (List Char)
  | [] => []
  | c :: cs =>
    if c = '\n' then ['\n'] :: physicalLines cs
    else match physicalLines cs with
      | [] => [[c]]
      | line :: lines => (c :: line) :: lines

/-- A string that is not closed at the end of a line. -/
structure OpenString where
  /-- Where it starts. -/
  start : Coordinates
  /-- The quotes that close it. -/
  quote : List Char
  /-- Its text so far. -/
  text : List Char

/-- What reaches from one line into the next. -/
structure State where
  /-- The row of the line. -/
  row : Nat
  /-- The number of open brackets. -/
  depth : Nat
  /-- Whether the line before ended in a line join. -/
  joined : Bool
  /-- The widths of the indentations around, innermost first, the outermost aside. -/
  indents : List Nat
  /-- The string that is not closed yet. -/
  pending : Option OpenString

/-- The state in front of the first line. -/
def State.initial : State := ⟨1, 0, false, [], none⟩

/-- The width of the indentation around. -/
def State.width (st : State) : Nat := st.indents.head?.getD 0

/-- The number of open brackets after one more operator. -/
def depthAfter (depth : Nat) (text : List Char) : Nat :=
  if text = ['('] ∨ text = ['['] ∨ text = ['\x7b'] then depth + 1
  else if text = [')'] ∨ text = [']'] ∨ text = ['\x7d'] then depth - 1
  else depth

/-- The lexemes of a line from a column on, and the state after the line. -/
def restOfLine (st : State) (column : Nat) (cs : List Char) : List Lexeme × State :=
  let column := column + (cs.takeWhile isSpacing).length
  let front := cs.dropWhile isSpacing
  if front.isEmpty then ([], st)
  else
    let piece (kind : Kind) (length : Nat) : Lexeme :=
      ⟨kind, front.take length, ⟨st.row, column⟩, ⟨st.row, column + length⟩⟩
    match scan front with
    | .lineJoin => ([], { st with joined := true })
    | .openString quote => ([], { st with pending := some ⟨⟨st.row, column⟩, quote, front⟩ })
    | .lineEnd length => ([piece (if 0 < st.depth then .nl else .newline) length], st)
    | .lexeme kind length =>
      let l := piece kind length
      let st := if kind = .op then { st with depth := depthAfter st.depth l.text } else st
      -- Every lexeme has a character, so this test never fails; it is what the recursion rests on.
      if _shorter : (front.drop length).length < cs.length then
        let (more, st) := restOfLine st (column + length) (front.drop length)
        (l :: more, st)
      else ([l], st)
termination_by cs.length
decreasing_by exact _shorter

/-- The width of a line's indentation. A tab goes on to the next multiple of eight, and a form feed starts
again. -/
def indentWidth : (width : Nat) → List Char → Nat
  | width, ' ' :: cs => indentWidth (width + 1) cs
  | width, '\t' :: cs => indentWidth ((width / 8 + 1) * 8) cs
  | _, '\x0c' :: cs => indentWidth 0 cs
  | width, _ => width

/-- A lexeme without text. -/
def emptyLexeme (kind : Kind) (at_ : Coordinates) : Lexeme := ⟨kind, [], at_, at_⟩

/-- The lexemes of a line that starts a statement or none, and the state after it. -/
def statementLine (st : State) (line : List Char) : Except LexFault (List Lexeme × State) :=
  let blanks := line.takeWhile isSpacing
  let rest := line.drop blanks.length
  let column := blanks.length
  match rest with
  | [] => .ok ([], st)
  | c :: _ =>
    -- A blank line or a comment: its indentation does not count.
    if isLineEnd c ∨ c = '#' then
      let comment := rest.takeWhile (!isLineEnd ·)
      let stop := column + comment.length
      let first : List Lexeme :=
        if comment.isEmpty then [] else [⟨.comment, comment, ⟨st.row, column⟩, ⟨st.row, stop⟩⟩]
      let last : Lexeme :=
        ⟨.nl, rest.drop comment.length, ⟨st.row, stop⟩, ⟨st.row, line.length⟩⟩
      .ok (first ++ [last], st)
    else
      let width := indentWidth 0 blanks
      if st.width < width then
        let opening : Lexeme := ⟨.indent, blanks, ⟨st.row, 0⟩, ⟨st.row, column⟩⟩
        let (more, st) := restOfLine { st with indents := width :: st.indents } column rest
        .ok (opening :: more, st)
      else
        -- Shallower: the blocks that are wider end here, and the width has to be one of those left.
        let indents := st.indents.dropWhile (width < ·)
        let closings := List.replicate (st.indents.length - indents.length)
          (emptyLexeme .dedent ⟨st.row, column⟩)
        if indents.head?.getD 0 = width then
          let (more, st) := restOfLine { st with indents } column rest
          .ok (closings ++ more, st)
        else .error (.refused "unindent does not match any outer indentation level" (some st.row))

/-- The lexemes of a line, and the state after it. -/
def lexLine (st : State) (line : List Char) : Except LexFault (List Lexeme × State) :=
  match st.pending with
  | some open_ =>
    match closeString open_.quote line with
    | some (inside, rest) =>
      let stop := inside.length
      let l : Lexeme := ⟨.string, open_.text ++ inside, open_.start, ⟨st.row, stop⟩⟩
      let (more, st) := restOfLine { st with pending := none } stop rest
      .ok (l :: more, st)
    | none =>
      if open_.quote.length = 3 ∨ escapesLineEnd line then
        .ok ([], { st with pending := some { open_ with text := open_.text ++ line } })
      else
        let l : Lexeme := ⟨.errorToken, open_.text ++ line, open_.start, ⟨st.row, line.length⟩⟩
        .ok ([l], { st with pending := none })
  | none =>
    if 0 < st.depth ∨ st.joined then .ok (restOfLine { st with joined := false } 0 line)
    else statementLine st line

/-- What the end of a source adds, given its last line. -/
def finish (st : State) (last : List Char) : Lexing :=
  match st.pending with
  | some open_ =>
    ⟨[], some (.stuck [.string "EOF in multi-line string",
      .tuple [.int open_.start.row, .int open_.start.column]])⟩
  | none =>
    if 0 < st.depth ∨ st.joined then
      ⟨[], some (.stuck [.string "EOF in multi-line statement", .tuple [.int st.row, .int 0]])⟩
    else
      -- A last line without a line end still ends its statement, unless it is a comment.
      let bare := last.dropWhile isSpacing
      let unended := last.getLast?.any (!isLineEnd ·) && bare.head? != some '#'
      let ending : Lexeme := ⟨.newline, [], ⟨st.row - 1, last.length⟩, ⟨st.row - 1, last.length + 1⟩⟩
      let closing := if unended then [ending] else []
      let here : Coordinates := ⟨st.row, 0⟩
      ⟨closing ++ List.replicate st.indents.length (emptyLexeme .dedent here) ++
        [emptyLexeme .endMarker here], none⟩

/-- The output for lines from a state on, the line before them given. -/
def lexLines : State → (last : List Char) → List (List Char) → Lexing
  | st, last, [] => finish st last
  | st, _, line :: lines =>
    match lexLine st line with
    | .error fault => ⟨[], some fault⟩
    | .ok (front, st) =>
      let more := lexLines { st with row := st.row + 1 } line lines
      { more with lexemes := front ++ more.lexemes }

end Lexer

/-- The output of the lexer for a source. -/
def lex (source : List Char) : Lexing :=
  Lexer.lexLines .initial [] (Lexer.physicalLines source)

end TokenLint
