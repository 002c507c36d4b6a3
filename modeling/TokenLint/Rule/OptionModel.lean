import TokenLint.Rule.Basic
import TokenLint.Settings.Parse

/-!
# Option models

What options a rule has. All options are whole numbers; one may have a default and a least value. A table
is read against a model as a whole: everything that is wrong is reported, first by option in the order of
the model, then the names that the model does not have in the order of the table.

## Main definitions

* `OptionField`: An option.
* `OptionModel`: The options of a rule.
* `OptionModel.read`: The options that a table gives.
-/

namespace TokenLint

/-- An option of a rule. -/
structure OptionField where
  /-- Its name. -/
  name : String
  /-- Its value where a table does not give it. Without one it has to be given. -/
  fallback : Option Int
  /-- Its least value, if there is one. -/
  least : Option Int
deriving DecidableEq, Repr

/-- The options of a rule. -/
structure OptionModel where
  /-- What the model is called. -/
  name : String
  /-- The options. -/
  fields : List OptionField
deriving DecidableEq, Repr

/-- The value of an option in a table. -/
def OptionField.read (f : OptionField) (table : Table) : Checked (String × Int) :=
  let absent := match f.fallback with
    | some n => .ok n
    | none => .error [⟨[], .missing⟩]
  (field table f.name absent (wholeFrom f.least)).map (f.name, ·)

/-- The values of options in a table. -/
def OptionField.readAll (table : Table) : List OptionField → Checked Options
  | [] => .ok []
  | f :: fs => Checked.apply ((f.read table).map fun x => (x :: ·)) (readAll table fs)

namespace OptionModel

/-- The model without options. -/
def none : OptionModel := ⟨"RuleOptions", []⟩

/-- The options that a table gives. -/
def read (m : OptionModel) (table : Table) : Checked Options :=
  Checked.refusing (OptionField.readAll table m.fields) (unexpected (m.fields.map (·.name)) table)

end OptionModel

end TokenLint
