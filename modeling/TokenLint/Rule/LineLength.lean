import TokenLint.Rule.Basic
import TokenLint.Text.Line

/-!
# Line length

The rule against long lines. The width of a line is the number of its characters, the carriage returns
before its line feed aside. A line ends inside some token or at the end of the last one, and there its
width is known from the token alone, since the token's column counts what stands before it.

## Main definitions

* `LineLength.endedWidths`: The lines that end inside a token, and their widths.
* `LineLength.openWidth?`: The line that no line feed ends, and its width.
* `LineLength.findings`: What the rule reports of tokens.
* `LineLength.rule`: The rule.
-/

namespace TokenLint

namespace LineLength

/-- The number of characters of a piece of a line, the carriage returns at its end aside. -/
def width (piece : List Char) : Nat := (Text.dropTrailing (· == '\r') piece).length

/-- Lines that are whole inside a token, from line `n` on, and their widths. The last piece is of a line
that does not end there. -/
def wholeWidths (n : Int) : List (List Char) → List (Int × Int)
  | [] | [_] => []
  | piece :: pieces => (n, (width piece : Int)) :: wholeWidths (n + 1) pieces

/-- A piece that others follow is a whole line. -/
theorem wholeWidths_cons (n : Int) (piece : List Char) (rest : List (List Char)) (h : rest ≠ []) :
    wholeWidths n (piece :: rest) = (n, (width piece : Int)) :: wholeWidths (n + 1) rest := by
  cases rest with
  | nil => exact absurd rfl h
  | cons next rest => rw [wholeWidths]; exact List.cons_ne_nil next rest

/-- The lines that end inside a token, and their widths. -/
def endedWidths (t : Token) : List (Int × Int) :=
  match Text.lines t.text with
  | first :: second :: rest =>
    (t.line, t.column - 1 + width first) :: wholeWidths (t.line + 1) (second :: rest)
  | _ => []

/-- A line ends with each piece of a token but the last. The first piece goes on with a line that may have
begun before. -/
theorem endedWidths_of_lines (t : Token) (first : List Char) (rest : List (List Char))
    (hlines : Text.lines t.text = first :: rest) (h : rest ≠ []) :
    endedWidths t = (t.line, t.column - 1 + width first) :: wholeWidths (t.line + 1) rest := by
  cases rest with
  | nil => exact absurd rfl h
  | cons next rest => rw [endedWidths, hlines]

/-- The line that no line feed ends, and its width, given the last token. -/
def openWidth? (t : Token) : Option (Int × Int) :=
  if t.text.getLast? = some '\n' then none
  else if t.hasBreak then some (t.line + t.breakCount, ((Text.lastLine t.text).length : Int))
  else some (t.line + t.breakCount, t.column - 1 + t.length)

/-- What the rule reports of a line with a width when `limit` characters fit. -/
def finding? (severity : Severity) (limit : Int) (line : Int × Int) : Option Finding :=
  if limit < line.2 then
    some ⟨severity, line.1, limit + 1, s!"Line too long ({line.2} > {limit} characters)"⟩
  else none

/-- What the rule reports of tokens. -/
def findings (severity : Severity) (limit : Int) (tokens : List Token) : List Finding :=
  (tokens.flatMap endedWidths ++ (tokens.getLast?.bind openWidth?).toList).filterMap
    (finding? severity limit)

/-- The name of the rule. -/
def ruleName : String := "line-length"

/-- The name of its option. -/
def optionName : String := "max_length"

/-- The rule that lets a line have up to `limit` characters. -/
def rule (severity : Severity) (limit : Int) : Rule :=
  .ofTokens ruleName severity [(optionName, limit)] (findings severity limit)

end LineLength

end TokenLint
