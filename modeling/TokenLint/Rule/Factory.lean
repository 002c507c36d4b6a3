import TokenLint.Rule.OptionModel

/-!
# Rule factories

What makes rules. A factory may declare what its rules are called, what options they have, how severe
their findings are and what they are about; all of it may be missing.

## Main definitions

* `Factory`: The factories.
* `Factory.model`: The options that the rules of a factory have.
-/

namespace TokenLint

/-- Something that makes rules. -/
structure Factory where
  /-- What the factory is called. -/
  name : String
  /-- Where the factory is from. -/
  area : String
  /-- How the factory is shown in complaints. -/
  shown : String
  /-- The name that it declares for its rules. -/
  ruleName : Option String
  /-- The options that it declares for its rules. -/
  options : Option OptionModel
  /-- The severity that it declares for its rules' findings. -/
  severity : Option Severity
  /-- What it says that its rules are about. -/
  summary : String
  /-- The rule that it makes of options and a severity, where none stands for its own choice. What it
  makes need not be a rule. -/
  build : Options → Option Severity → Option Rule

/-- The options that the rules of a factory have. -/
def Factory.model (f : Factory) : OptionModel := f.options.getD .none

end TokenLint
