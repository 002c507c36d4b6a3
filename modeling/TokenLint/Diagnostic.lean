import TokenLint.Data.Payload

/-!
# Diagnostics

A finding about a file: how bad it is, where it is, what it says, and who found it. A line that is not
positive means that the finding has no place in the file.

## Main definitions

* `Diagnostic`: The findings.
* `Diagnostic.render`: A finding in one line of text.
* `Diagnostic.payload`: A finding for programs.
-/

namespace TokenLint

/-- A finding about a file. -/
structure Diagnostic where
  /-- The file. -/
  path : Path
  /-- How bad it is. -/
  severity : Severity
  /-- The line, counted from one. -/
  line : Int
  /-- The column, counted from one. -/
  column : Int
  /-- What it says. -/
  message : String
  /-- Who found it. -/
  source : Source
  /-- The rule that found it or failed, if it was one. -/
  rule : Option String
deriving DecidableEq, Repr

namespace Diagnostic

/-- Whether the finding has to be mended. -/
def isError (d : Diagnostic) : Bool := d.severity = .error

/-- Whether the finding may stay. -/
def isWarning (d : Diagnostic) : Bool := d.severity = .warning

/-- Whether the finding has a place in the file. -/
def hasPosition (d : Diagnostic) : Bool := 0 < d.line

/-- The finding in one line of text. One without a place, or from the syntax pre-check, is its message
alone. -/
def render (d : Diagnostic) : String :=
  if d.source = .syntaxCheck ∨ !d.hasPosition then d.message
  else s!"Line {d.line}, column {d.column}: {d.severity.word.capitalize}: {d.message}"

/-- The finding for programs. The file is left out, since findings are listed by file. -/
def payload (d : Diagnostic) : Payload :=
  .map [(.string "severity", .symbol (.severity d.severity)), (.string "line", .int d.line),
    (.string "column", .int d.column), (.string "message", .string d.message),
    (.string "source", .symbol (.source d.source)),
    (.string "rule", match d.rule with | some r => .string r | none => .null)]

end Diagnostic

end TokenLint
