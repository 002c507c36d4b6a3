import TokenLint.Proofs.Result
import TokenLint.Proofs.Rule.Severity
import TokenLint.Rule.Builtin

/-!
# Building a Rule

A class of rules makes a rule of any options and any severity, so a rule is built
if its name is that of a registered class and its table of options is right. Two
things can be wrong with a table, and they are looked at in turn: the entry for
the severity, which is no option of the rule, and then the other entries, which
the option model reads. What is reported is the first thing that is wrong.

## Main definitions

* `Factory.Makes`: A rule as a factory is to make it.
* `Factory.IsClass`: A factory that makes rules of its own name.
* `Registry.Gives`: The rule that a name and a table of options give.
* `Registry.Denies`: What is reported where they give none.

## Theorems

* `Registry.gives_or_denies`: They give a rule, or something is reported.
* `Registry.build_eq_ok_iff`: When a rule is built, and which.
* `Registry.build_eq_error_iff`: When none is, and what is reported.
* `Registry.isClass_of_standard`: The rules of the program are made by classes.
-/

namespace TokenLint

/-- A rule as a factory is to make it of options and a severity. -/
structure Factory.Makes (f : Factory) (options : Options) (asked : Option Severity) (rule : Rule) :
    Prop where
  /-- It is made of them. -/
  made : f.build options asked = some rule
  /-- It has the name that the factory declares. -/
  named : f.ruleName = some rule.name
  /-- Its severity is the one asked for, and without one that of the factory. -/
  severe : asked.or f.severity = some rule.severity
  /-- Its options are those given. -/
  configured : rule.options = options

/-- A factory that declares a name and makes a rule of any options and severity. -/
structure Factory.IsClass (f : Factory) : Prop where
  /-- The name is not empty. -/
  named : ∃ name, f.ruleName = some name ∧ name ≠ ""
  /-- What is made is a rule. -/
  makes : ∀ options asked, ∃ rule, f.Makes options asked rule

namespace Registry

/-- A rule is what a name and a table of options give: the severity is what the table asks for,
    and the options are what the model reads from its other entries. -/
inductive Gives (r : Registry) (name : String) (table : Table) : Rule → Prop
  | intro {spec : RuleSpec} {asked : Option Severity} {options : Options} {rule : Rule}
      (hspec : r.get? name = some spec) (hset : Severity.SetBy table asked)
      (hread : spec.model.read (Ordered.erase severityOption table) = .ok options)
      (hmade : spec.factory.Makes options asked rule) : Gives r name table rule

/-- What is reported where a name and a table of options give no rule. -/
inductive Denies (r : Registry) (name : String) (table : Table) : Failure → Prop
  /-- There is no rule under the name. -/
  | unknown (hspec : r.get? name = none) : Denies r name table (.unknownRule name)
  /-- The entry for the severity sets none. -/
  | severity {spec : RuleSpec} {value : Setting} (hspec : r.get? name = some spec)
      (hvalue : Ordered.get? severityOption table = some value)
      (hmisnames : Severity.Misnames value) :
      Denies r name table (.invalidOptions name (.text (Severity.complaint value)))
  /-- The severity is right, and the other entries are not. -/
  | options {spec : RuleSpec} {asked : Option Severity} {violations : List Violation}
      (hspec : r.get? name = some spec) (hset : Severity.SetBy table asked)
      (hread : spec.model.read (Ordered.erase severityOption table) = .error violations) :
      Denies r name table (.invalidOptions name (.violations violations))

section Build

variable {r : Registry} {name : String} {table : Table}

theorem build_of_gives {rule : Rule} (h : r.Gives name table rule) :
    r.build name table = .ok rule := by
  obtain ⟨hspec, hset, hread, hmade⟩ := h
  simp only [build, hspec]
  rw [severityIn_eq_ok_iff.mpr hset, hread]
  simp only [Except.mapError, bind, Except.bind, hmade.made]
  rfl

theorem build_of_denies {fault : Failure} (h : r.Denies name table fault) :
    r.build name table = .error fault := by
  cases h with
  | unknown hspec =>
      rw [build, hspec]
      rfl
  | severity hspec hvalue hmisnames =>
      rw [build, hspec, severityIn_of_misnames hvalue hmisnames]
      rfl
  | options hspec hset hread =>
      simp only [build, hspec]
      rw [severityIn_eq_ok_iff.mpr hset, hread]
      rfl

variable (hclass : ∀ spec, r.get? name = some spec → spec.factory.IsClass)

include hclass

/-- A name and a table give a rule, or something is reported. -/
theorem gives_or_denies (table : Table) :
    (∃ rule, r.Gives name table rule) ∨ ∃ fault, r.Denies name table fault := by
  cases hspec : r.get? name with
  | none => exact .inr ⟨_, .unknown hspec⟩
  | some spec =>
      rcases exists_setBy_or_misnames table with ⟨asked, hset⟩ | ⟨value, hvalue, hmisnames⟩
      · cases hread : spec.model.read (Ordered.erase severityOption table) with
        | error violations => exact .inr ⟨_, .options hspec hset hread⟩
        | ok options =>
            obtain ⟨rule, hmade⟩ := (hclass spec hspec).makes options asked
            exact .inl ⟨rule, .intro hspec hset hread hmade⟩
      · exact .inr ⟨_, .severity hspec hvalue hmisnames⟩

/-- The rule that is built is what the name and the table give. -/
theorem build_eq_ok_iff {rule : Rule} :
    r.build name table = .ok rule ↔ r.Gives name table rule := by
  refine ⟨fun h => ?_, build_of_gives⟩
  rcases gives_or_denies hclass table with ⟨given, hgiven⟩ | ⟨fault, hfault⟩
  · rw [build_of_gives hgiven] at h
    rwa [← Except.ok.inj h]
  · rw [build_of_denies hfault] at h
    cases h

/-- No rule is built where something is reported. -/
theorem build_eq_error_iff {fault : Failure} :
    r.build name table = .error fault ↔ r.Denies name table fault := by
  refine ⟨fun h => ?_, build_of_denies⟩
  rcases gives_or_denies hclass table with ⟨given, hgiven⟩ | ⟨found, hfound⟩
  · rw [build_of_gives hgiven] at h
    cases h
  · rw [build_of_denies hfound] at h
    rwa [← Except.error.inj h]

end Build

theorem isClass_of_mem_builtin {f : Factory} (hf : f ∈ builtinFactories) : f.IsClass := by
  simp only [builtinFactories, List.mem_cons, List.not_mem_nil, or_false] at hf
  rcases hf with rfl | rfl | rfl | rfl
  all_goals
    refine ⟨⟨_, rfl, by decide⟩, fun options asked => ⟨_, rfl, rfl, ?_, rfl⟩⟩
    cases asked <;> rfl

/-- The rules of the program are made by classes. -/
theorem isClass_of_standard {name : String} {spec : RuleSpec}
    (h : standard.get? name = some spec) : spec.factory.IsClass := by
  have hmade : standard.specs.map (·.2.factory) = builtinFactories := rfl
  refine isClass_of_mem_builtin ?_
  rw [← hmade]
  exact List.mem_map_of_mem (f := fun entry => entry.2.factory) (Ordered.mem_of_get?_eq_some h)

end Registry

end TokenLint
