import TokenLint.Rule.Basic

/-!
# Blank lines

The rule against long runs of blank lines. A run is one token of white space with line feeds in it. If it
starts at the start of a line, each of its line feeds ends a blank line; otherwise the first ends the
line before the run.

## Main definitions

* `BlankLines.finding?`: What the rule reports of one token.
* `BlankLines.rule`: The rule.
-/

namespace TokenLint

namespace BlankLines

/-- What the rule reports of a token when up to `limit` blank lines in a row may stand. -/
def finding? (severity : Severity) (limit : Int) (t : Token) : Option Finding :=
  if t.isWhitespace && t.hasBreak then
    let startsLine := t.column = 1
    let blank : Int := if startsLine then t.breakCount else t.breakCount - 1
    let first := if startsLine then t.line else t.line + 1
    if limit < blank then
      some ⟨severity, first + limit, 1, s!"Too many blank lines ({blank} > {limit})"⟩
    else none
  else none

/-- The name of the rule. -/
def ruleName : String := "blank-lines"

/-- The name of its option. -/
def optionName : String := "max_blank_lines"

/-- The rule that lets up to `limit` blank lines stand in a row. -/
def rule (severity : Severity) (limit : Int) : Rule :=
  .ofTokens ruleName severity [(optionName, limit)] (·.filterMap (finding? severity limit))

end BlankLines

end TokenLint
