import TokenLint.Rule.Basic
import TokenLint.Text.Line

/-!
# White space in lines

Two rules about blanks. One is against spaces and tabs at the end of a line: it follows each line through
the tokens it is made of, and keeps the place where the blanks at its end so far began. A last line
without a line feed is not ended and is not reported. The other is against tabs in indentation, which is
what stands at the start of a line in a token of white space or of indentation.

## Main definitions

* `TrailingWhitespace.Pending`: Where the blanks at the end of a line began.
* `TrailingWhitespace.findingsFrom`: What the first rule reports of tokens.
* `TabIndentation.finding?`: What the second rule reports of one token.
* `TrailingWhitespace.rule`, `TabIndentation.rule`: The rules.
-/

namespace TokenLint

namespace TrailingWhitespace

/-- The line and column where the blanks at the end of a line so far began, if it ends in blanks. -/
abbrev Pending := Option (Int × Int)

/-- The number of spaces and tabs at the end of a piece of a line. -/
def blankTail (piece : List Char) : Nat :=
  (piece.reverse.takeWhile fun c => c == ' ' || c == '\t').length

/-- What is pending after one more piece of a line, which starts at a place. -/
def advance (pending : Pending) (line column : Int) (piece : List Char) : Pending :=
  if piece.isEmpty then pending
  else
    let start := piece.length - blankTail piece
    if blankTail piece = 0 then none
    -- A piece of blanks only goes on with the run that is pending.
    else if 0 < start ∨ pending = none then some (line, column + start)
    else pending

/-- What the rule reports of a line that ends. -/
def finding? (severity : Severity) : Pending → Option Finding :=
  Option.map fun (line, column) => ⟨severity, line, column, "Trailing whitespace"⟩

/-- What the rule reports of the pieces of a token between its line feeds, the first at a place, and what
is pending after them. -/
def pieces (severity : Severity) : Pending → (line column : Int) → List (List Char) →
    List Finding × Pending
  | pending, _, _, [] => ([], pending)
  | pending, line, column, [piece] => ([], advance pending line column piece)
  | pending, line, column, piece :: rest =>
    let ended := advance pending line column (Text.dropReturn piece)
    let (more, pending) := pieces severity none (line + 1) 1 rest
    ((finding? severity ended).toList ++ more, pending)

/-- A piece that others follow is of a line that ends with it. -/
theorem pieces_cons (severity : Severity) (pending : Pending) (line column : Int) (piece : List Char)
    (rest : List (List Char)) (h : rest ≠ []) :
    pieces severity pending line column (piece :: rest) =
      ((finding? severity (advance pending line column (Text.dropReturn piece))).toList ++
        (pieces severity none (line + 1) 1 rest).1, (pieces severity none (line + 1) 1 rest).2) := by
  cases rest with
  | nil => exact absurd rfl h
  | cons next rest => rw [pieces]; exact List.cons_ne_nil next rest

/-- What the rule reports of tokens when something may be pending. -/
def findingsFrom (severity : Severity) : Pending → List Token → List Finding
  | _, [] => []
  | pending, t :: ts =>
    let (found, pending) := pieces severity pending t.line t.column (Text.lines t.text)
    found ++ findingsFrom severity pending ts

/-- The name of the rule. -/
def ruleName : String := "trailing-whitespace"

/-- The rule. -/
def rule (severity : Severity) : Rule :=
  .ofTokens ruleName severity [] (findingsFrom severity none)

end TrailingWhitespace

namespace TabIndentation

/-- The indentation that a token holds, and its line. -/
def indentation (t : Token) : List Char × Int :=
  if t.hasBreak then (t.trailingBlanks, t.line + t.breakCount)
  else if t.column = 1 then (t.text, t.line)
  else ([], t.line)

/-- What the rule reports of a token. -/
def finding? (severity : Severity) (t : Token) : Option Finding :=
  if t.isWhitespace || t.kind = .indent then
    let (blanks, line) := indentation t
    (blanks.findIdx? (· == '\t')).map fun place : Nat =>
      ⟨severity, line, place + 1, "Indentation contains a tab character"⟩
  else none

/-- The name of the rule. -/
def ruleName : String := "tab-indentation"

/-- The rule. -/
def rule (severity : Severity) : Rule :=
  .ofTokens ruleName severity [] (·.filterMap (finding? severity))

end TabIndentation

end TokenLint
