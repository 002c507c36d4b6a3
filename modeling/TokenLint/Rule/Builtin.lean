import TokenLint.Rule.BlankLines
import TokenLint.Rule.LineLength
import TokenLint.Rule.Registry
import TokenLint.Rule.Whitespace

/-!
# The rules of the program

The four rules that come with the program, as factories, and the registry that holds them.

## Main definitions

* `BlankLines.factory`, `LineLength.factory`, `TabIndentation.factory`, `TrailingWhitespace.factory`:
  What makes the rules.
* `Registry.standard`: The registry of these rules.
-/

namespace TokenLint

/-- The value of an option. -/
def Options.value (options : Options) (f : OptionField) : Int :=
  (Ordered.get? f.name options).getD (f.fallback.getD 0)

namespace BlankLines

/-- The number of blank lines in a row that are let be. -/
def limitField : OptionField := ⟨optionName, some 2, some 0⟩

/-- What makes the rule. -/
def factory : Factory where
  name := "BlankLinesRule"
  area := "lexcheck.rules.builtin.blank_lines"
  shown := "<class 'lexcheck.rules.builtin.blank_lines.BlankLinesRule'>"
  ruleName := some ruleName
  options := some ⟨"BlankLinesOptions", [limitField]⟩
  severity := some .warning
  summary := "Limit the number of consecutive blank lines."
  build options severity := some
    { rule (severity.getD .warning) (options.value limitField) with options }

end BlankLines

namespace LineLength

/-- The width up to which lines are let be. -/
def limitField : OptionField := ⟨optionName, some 99, some 1⟩

/-- What makes the rule. -/
def factory : Factory where
  name := "LineLengthRule"
  area := "lexcheck.rules.builtin.line_length"
  shown := "<class 'lexcheck.rules.builtin.line_length.LineLengthRule'>"
  ruleName := some ruleName
  options := some ⟨"LineLengthOptions", [limitField]⟩
  severity := some .warning
  summary := "Physical lines must not exceed the configured length."
  build options severity := some
    { rule (severity.getD .warning) (options.value limitField) with options }

end LineLength

namespace TabIndentation

/-- What makes the rule. -/
def factory : Factory where
  name := "TabIndentationRule"
  area := "lexcheck.rules.builtin.whitespace"
  shown := "<class 'lexcheck.rules.builtin.whitespace.TabIndentationRule'>"
  ruleName := some ruleName
  options := some .none
  severity := some .error
  summary := "Indentation must use spaces, not tabs."
  build options severity := some { rule (severity.getD .error) with options }

end TabIndentation

namespace TrailingWhitespace

/-- What makes the rule. -/
def factory : Factory where
  name := "TrailingWhitespaceRule"
  area := "lexcheck.rules.builtin.whitespace"
  shown := "<class 'lexcheck.rules.builtin.whitespace.TrailingWhitespaceRule'>"
  ruleName := some ruleName
  options := some .none
  severity := some .warning
  summary := "Lines must not end with spaces or tabs."
  build options severity := some { rule (severity.getD .warning) with options }

end TrailingWhitespace

namespace Registry

/-- What makes the rules of the program. -/
def builtinFactories : List Factory :=
  [BlankLines.factory, LineLength.factory, TabIndentation.factory, TrailingWhitespace.factory]

/-- A registry with a rule of the program. -/
def withBuiltin (r : Registry) (f : Factory) : Registry :=
  match r.register (.factory f) { Registration.plain with origin := "builtin" } with
  | .ok (_, r) => r
  | .error _ => r

/-- The registry of the program's rules. -/
def standard : Registry := builtinFactories.foldl withBuiltin empty

end Registry

end TokenLint
