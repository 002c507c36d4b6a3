import TokenLint.Failure.Breakdown
import TokenLint.Settings.Basic
import TokenLint.Settings.Reading

/-!
# Parsing settings

A table read as settings. The version is looked at first, since another version may mean anything by the
rest. After that every value is read, and all that is wrong is reported at once, in the order of the
settings, and then the names that are no settings, in the order of the table.

## Main definitions

* `Checked`: A result, or all that is wrong.
* `field`: A setting of a table.
* `Settings.read`: The settings of a table.
* `Settings.parse`: The same with the version looked at first.
-/

namespace TokenLint

/-- A result, or all that is wrong with what it is made of. -/
abbrev Checked (α : Type) := Except (List Violation) α

namespace Checked

/-- What is wrong with a result. -/
def violations {α : Type} : Checked α → List Violation
  | .ok _ => []
  | .error vs => vs

/-- A function applied to an argument, where both may be wrong. -/
def apply {α β : Type} (f : Checked (α → β)) (x : Checked α) : Checked β :=
  match f, x with
  | .ok f, .ok a => .ok (f a)
  | f, x => .error (f.violations ++ x.violations)

/-- A result that counts only if a list of further violations is empty. -/
def refusing {α : Type} (x : Checked α) (more : List Violation) : Checked α :=
  match x, more with
  | .ok a, [] => .ok a
  | x, more => .error (x.violations ++ more)

/-- A result with one flaw at most. -/
def ofFlaw {α : Type} : Except Flaw α → Checked α
  | .ok a => .ok a
  | .error flaw => .error [⟨[], flaw⟩]

end Checked

/-- The value under a name as `read` reads it. What is wrong with it is placed under the name. -/
def field {α : Type} (table : Table) (name : String) (absent : Checked α)
    (read : Setting → Checked α) : Checked α :=
  let found := match Ordered.get? name table with
    | some value => read value
    | none => absent
  found.mapError fun vs => vs.map fun v => { v with place := .name name :: v.place }

/-- The names of a table that are not in a list. -/
def unexpected (known : List String) (table : Table) : List Violation :=
  (table.filter fun (name, _) => !known.contains name).map fun (name, _) => ⟨[.name name], .unexpected⟩

/-- A whole number with a least value, if there is one. -/
def wholeFrom (least : Option Int) (value : Setting) : Checked Int :=
  match value.whole with
  | .error flaw => .error [⟨[], flaw⟩]
  | .ok n => match least with
    | some m => if n < m then .error [⟨[], .tooSmall⟩] else .ok n
    | none => .ok n

namespace Settings

/-- The names of the settings. -/
def names : List String := [
  "config_version", "python", "syntax_check", "rules", "rule_options", "extensions", "exclude",
  "workers", "fail_on"]

/-- The interpreter that a value names. -/
def readInterpreter : Setting → Checked (Option String)
  | .null => .ok none
  | .string s => .ok (tidyName? s)
  | _ => .error [⟨[], .noText⟩]

/-- The policy that a value names. -/
def readPolicy : Setting → Checked FailPolicy
  | .string s =>
    match Vocabulary.ofWord? s with
    | some policy => .ok policy
    | none => .error [⟨[], .refused (choiceComplaint "fail_on" (Vocabulary.words FailPolicy))⟩]
  | _ => .error [⟨[], .noChoice⟩]

/-- The settings of a table, whatever its version. -/
def read (source : Option Path) (table : Table) : Checked Settings :=
  let known : Checked Settings := Checked.apply (.ok Settings.mk)
    (field table "python" (.ok none) readInterpreter)
    |>.apply (field table "syntax_check" (.ok true) (Checked.ofFlaw ·.truth))
    |>.apply (field table "rules" (.ok []) fun x => x.wordings.map tidyList)
    |>.apply (field table "rule_options" (.ok []) fun x => x.tables.map tidyTables)
    |>.apply (field table "extensions" (.ok defaultExtensions) fun x => x.wordings.map tidyList)
    |>.apply (field table "exclude" (.ok defaultExclude) fun x => x.wordings.map tidyList)
    |>.apply (field table "workers" (.ok 1) (wholeFrom (some 1)))
    |>.apply (field table "fail_on" (.ok .errors) readPolicy)
    |>.apply (.ok source)
  Checked.refusing known (unexpected names table)

/-- The settings of a table from a file. -/
def parse (source : Path) (table : Table) : Except Breakdown Settings :=
  -- Settings of another version are refused whatever else is wrong with them.
  let provided := (Ordered.get? "config_version" table).getD version
  if provided.isZero then
    (read (some source) table).mapError fun vs =>
      .failure (.invalidSettingsFile source (.violations vs))
  else match provided.asText with
    | .ok _ => .error (.failure (.unsupportedVersion provided version))
    | .error fault => .error (.conversion fault)

end Settings

end TokenLint
