import TokenLint.Rule.Factory

/-!
# The rule registry

The rules that a run can use, by name. A name has no surrounding blanks and is not empty. Registering,
looking up and leaving out are the operations of a finite map; what fails changes nothing.

A rule is built from a table of options. The severity of its findings is one of the entries, but no
option of the rule: it is taken out first.

## Main definitions

* `RuleSpec`: How to build a registered rule.
* `Registry`: The registered rules.
* `Registry.register`, `Registry.unregister`: Changes.
* `Registry.build`: A rule with options.
* `Registry.resolve`: The rules of a run.
* `Registry.describe`: A description of each rule.
-/

namespace TokenLint

/-- How to build a registered rule. -/
structure RuleSpec where
  /-- Its name. -/
  name : String
  /-- What makes it. -/
  factory : Factory
  /-- Its options. -/
  model : OptionModel
  /-- What it is about. -/
  summary : String
  /-- Whether it came with the program. -/
  origin : String

/-- The registered rules by name. -/
structure Registry where
  /-- The rules in the order of their registration. -/
  specs : List (String × RuleSpec)

/-- What somebody wants to register: a factory, or a value of a type that makes nothing. -/
inductive Candidate where
  /-- A factory. -/
  | factory (f : Factory)
  /-- Something else. -/
  | other (type : String)

/-- How somebody wants a rule registered. What is missing is as the factory declares it. -/
structure Registration where
  /-- Its name. -/
  name : Option String
  /-- Its options. -/
  model : Option OptionModel
  /-- What it is about. -/
  summary : Option String
  /-- Whether it may take the place of another rule. -/
  replace : Bool
  /-- Whether it came with the program. -/
  origin : String

/-- A registration that leaves everything to the factory. -/
def Registration.plain : Registration := ⟨none, none, none, false, "registered"⟩

/-- A description of a registered rule. -/
structure RuleDescription where
  /-- Its name. -/
  name : String
  /-- Where what makes it is from. -/
  area : String
  /-- What makes it. -/
  factory : String
  /-- How severe its findings are unless its options say otherwise. -/
  severity : Severity
  /-- What it is about. -/
  summary : String
  /-- Whether it came with the program. -/
  origin : String
deriving DecidableEq, Repr

/-- The name of the entry that sets a rule's severity. -/
def severityOption : String := "severity"

namespace Registry

/-- The registry without rules. -/
def empty : Registry := ⟨[]⟩

instance : Inhabited Registry := ⟨empty⟩

/-- The rule under a name. -/
def get? (r : Registry) (name : String) : Option RuleSpec := Ordered.get? name r.specs

/-- Whether there is a rule under a name. -/
def contains (r : Registry) (name : String) : Bool := (r.get? name).isSome

/-- The name that a rule is registered under, if there is one. An empty name is none. -/
def nameFor? (f : Factory) (wanted : Option String) : Option String :=
  let given := match wanted with
    | some name => if name = "" then f.ruleName else some name
    | none => f.ruleName
  (given.map Text.strip).filter (· ≠ "")

/-- The registry with one more rule, and the rule. -/
def register (r : Registry) (candidate : Candidate) (wanted : Registration) :
    Except Failure (RuleSpec × Registry) :=
  match candidate with
  | .other type => .error (.wrongType s!"Rule factory must be callable, got {type}")
  | .factory f =>
    match nameFor? f wanted.name with
    | none => .error (.ruleSet s!"Rule factory {f.shown} does not declare a name")
    | some name =>
      if r.contains name ∧ !wanted.replace then .error (.duplicateRule name)
      else
        let spec : RuleSpec :=
          ⟨name, f, wanted.model.getD f.model, wanted.summary.getD f.summary, wanted.origin⟩
        .ok (spec, ⟨Ordered.put name spec r.specs⟩)

/-- The registry without the rule under a name. -/
def unregister (r : Registry) (name : String) : Registry := ⟨Ordered.erase name r.specs⟩

/-- The rules in the order of their names. -/
def sorted (r : Registry) : List (String × RuleSpec) := Ordered.sortByKey r.specs

/-- The names in their order. -/
def names (r : Registry) : List String := r.sorted.map (·.1)

/-- The severity that a table of options sets, if it does. -/
def severityIn (name : String) (table : Table) : Except Failure (Option Severity) :=
  match Ordered.get? severityOption table with
  | none | some .null => .ok none
  | some value =>
    let complain (complaint : String) : Failure := .invalidOptions name (.text complaint)
    match value.asText with
    | .error fault => .error (complain fault.message)
    | .ok word => ((Vocabulary.ofWord word).map some).mapError complain

/-- The rule under a name with the options of a table. -/
def build (r : Registry) (name : String) (table : Table) : Except Failure Rule := do
  let some spec := r.get? name | throw (.unknownRule name)
  -- The severity is looked at before the options, so its fault is the one that is reported.
  let severity ← severityIn name table
  let options ← (spec.model.read (Ordered.erase severityOption table)).mapError fun vs =>
    .invalidOptions name (.violations vs)
  match spec.factory.build options severity with
  | some rule => return rule
  | none => throw (.ruleSet s!"Rule '{name}' did not provide a valid rule instance")

/-- The names of the rules to run: those given, without surrounding blanks and each once, or all of
them if none are given. -/
def selection (r : Registry) (given : List String) : List String :=
  let wanted := distinct (given.map Text.strip)
  if wanted.isEmpty then r.names else wanted

/-- The rules to run, in order, with their options. Options for a rule that there is not are refused
before any rule is built. -/
def resolve (r : Registry) (given : List String) (tables : List (String × Table)) :
    Except Failure (List Rule) :=
  match tables.find? fun (name, _) => !r.contains name with
  | some (name, _) => .error (.unknownRule name)
  | none => (r.selection given).mapM fun name => r.build name ((Ordered.get? name tables).getD [])

/-- How severe a rule's findings are unless its options say otherwise. If what makes it does not declare
that, the rule is built without options to see. -/
def defaultSeverity (r : Registry) (spec : RuleSpec) : Except Failure Severity :=
  match spec.factory.severity with
  | some s => .ok s
  | none => (r.build spec.name []).map (·.severity)

/-- A description of each rule, in the order of the names. -/
def describe (r : Registry) : Except Failure (List RuleDescription) :=
  r.sorted.mapM fun (name, spec) => do
    let severity ← r.defaultSeverity spec
    return ⟨name, spec.factory.area, spec.factory.name, severity, spec.summary, spec.origin⟩

end Registry

end TokenLint
