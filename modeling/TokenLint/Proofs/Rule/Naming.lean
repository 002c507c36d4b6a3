import TokenLint.Proofs.Rule.Resolution

/-!
# What a Name Reaches

A rule is registered under a name without the blanks around what was written.
The other operations are handed a name, too, and are to mean the same rule by
it. They do not all treat it alike: where the rules of a run are selected,
blanks are stripped as they are at registration, and where a rule is built or
left out, or given options, the name is looked up as it is.

So what was written for a new rule reaches it everywhere if it has no blanks
around it and is not empty, and otherwise only the selection of a run gets to
it. The other operations find nothing, since no rule is under such a name.

## Main definitions

* `Registry.Reaches`: A name that stands for a new rule in every operation.

## Theorems

* `Registry.get?_eq_none_of_untidy`: No rule is under a name with blanks around.
* `Registry.register_new`: What a registration leaves.
* `Registry.register_reaches_iff`: Which names stand for the rule.
-/

namespace TokenLint

namespace Registry

/-- A name stands for a new rule in every operation. -/
structure Reaches (before after : Registry) (spec : RuleSpec) (name : String) (rule : Rule) :
    Prop where
  /-- The rule is built by it. -/
  built : after.build name [] = .ok rule
  /-- The rule is selected by it for a run. -/
  selected : after.resolve [name] [] = .ok [rule]
  /-- Options are given to the rule by it. -/
  configured : ∀ table, after.resolve [name] [(name, table)] =
    (after.build spec.name table).map fun rule => [rule]
  /-- The rule is left out by it, and what is left is what was there before. -/
  removed : after.unregister name = before

theorem get?_eq_none_of_untidy {r : Registry} {cs : List Change} (h : r.IsMapOf cs)
    {name : String} (hname : Text.isTidy name = false) : r.get? name = none := by
  refine Option.eq_none_iff_forall_ne_some.mpr fun spec hspec => ?_
  obtain ⟨hne, hstrip, _⟩ := h.named name spec hspec
  rw [Text.isTidy_iff.mpr ⟨hne, hstrip⟩] at hname
  cases hname

theorem resolve_of_unknown_cons {r : Registry} {name : String} (h : r.get? name = none)
    (given : List String) (table : Table) (tables : List (String × Table)) :
    r.resolve given ((name, table) :: tables) = .error (.unknownRule name) :=
  resolve_of_unknownTable (List.nil_append ((name, table) :: tables)).symm
    (fun _ hentry => absurd hentry List.not_mem_nil) h

theorem unregister_of_unknown {r : Registry} {name : String} (h : r.get? name = none) :
    r.unregister name = r := by
  have hsame := Ordered.erase_of_not_mem name r.specs ((Ordered.get?_eq_none_iff _ _).mp h)
  exact congrArg Registry.mk hsame

/-- One name given, one rule is built. -/
theorem resolve_singleton {r : Registry} {tables : List (String × Table)}
    (htables : ∀ entry ∈ tables, r.contains entry.1 = true) (name : String) :
    r.resolve [name] tables =
      (r.build (Text.strip name) (optionsFor tables (Text.strip name))).map fun rule => [rule] := by
  have hselection : r.selection [name] = [Text.strip name] := rfl
  rw [resolve_of_known htables, hselection, List.mapM_cons]
  cases r.build (Text.strip name) (optionsFor tables (Text.strip name)) <;> rfl

section New

variable {r next : Registry} {f : Factory} {name : String} {spec : RuleSpec}
  (h : r.register (.factory f) { Registration.plain with name := some name } = .ok (spec, next))

include h

/-- A registration leaves its rule under the name without blanks around it. The name was not
    taken, and if it was empty, it is the one that the factory declares. -/
theorem register_new : r.get? spec.name = none ∧ next = r.make (.put spec) ∧ spec.factory = f ∧
    spec.model = f.model ∧ Text.isTidy spec.name = true ∧
    (name ≠ "" → spec.name = Text.strip name) := by
  obtain ⟨g, written, hg, hwritten, hne, rfl, rfl⟩ := register_ok r _ _ h
  cases hg
  refine ⟨?_, rfl, rfl, rfl, Text.isTidy_strip hne, fun hname => ?_⟩
  · -- Otherwise the name would have been taken.
    rw [← Option.not_isSome_iff_eq_none]
    intro hthere
    have htaken := (register_duplicate_iff r (.factory f) _ _).mpr
      ⟨f, written, rfl, hwritten, rfl, hne, hthere, rfl⟩
    rw [h] at htaken
    cases htaken
  · simp only [writtenName?, if_neg hname, Option.some.injEq] at hwritten
    rw [specFor, hwritten]

/-- What is found once a rule was registered. -/
theorem get?_register_new (key : String) :
    next.get? key = if spec.name = key then some spec else r.get? key := by
  obtain ⟨_, rfl, _⟩ := register_new h
  exact get?_make r (.put spec) key

theorem get?_register_self : next.get? spec.name = some spec := by
  rw [get?_register_new h, if_pos rfl]

/-- Leaving out the new rule takes the registration back. -/
theorem unregister_register : next.unregister spec.name = r := by
  obtain ⟨hnew, rfl, _⟩ := register_new h
  have herase := Ordered.erase_put spec.name spec r.specs ((Ordered.get?_eq_none_iff _ _).mp hnew)
  exact congrArg Registry.mk herase

/-- No other name with blanks around it has come to stand for anything. -/
theorem get?_register_untidy {cs : List Change} (hmap : r.IsMapOf cs)
    (hname : Text.isTidy name = false) : next.get? name = none := by
  obtain ⟨_, _, _, _, htidy, _⟩ := register_new h
  have hne : spec.name ≠ name := by
    rintro rfl
    rw [htidy] at hname
    cases hname
  rw [get?_register_new h, if_neg hne]
  exact get?_eq_none_of_untidy hmap hname

/-- The new rule can be built without options, if all of its options have a default. -/
theorem build_register (hclass : f.IsClass) {options : Options}
    (hoptions : f.model.read [] = .ok options) :
    ∃ rule, f.Makes options none rule ∧ next.build spec.name [] = .ok rule := by
  obtain ⟨_, _, hfactory, hmodel, _⟩ := register_new h
  obtain ⟨rule, hmade⟩ := hclass.makes options none
  rw [← hmodel] at hoptions
  refine ⟨rule, hmade, build_of_gives ?_⟩
  exact .intro (get?_register_self h) (.absent rfl) hoptions (hfactory ▸ hmade)

/-- A name that is not empty selects the new rule for a run. -/
theorem resolve_register (hname : name ≠ "") {tables : List (String × Table)}
    (htables : ∀ entry ∈ tables, next.contains entry.1 = true) :
    next.resolve [name] tables =
      (next.build spec.name (optionsFor tables spec.name)).map fun rule => [rule] := by
  obtain ⟨_, _, _, _, _, hstrip⟩ := register_new h
  rw [resolve_singleton htables, ← hstrip hname]

/-- It does so without options, too. -/
theorem resolve_register_plain (hname : name ≠ "") {rule : Rule}
    (hbuild : next.build spec.name [] = .ok rule) : next.resolve [name] [] = .ok [rule] := by
  rw [resolve_register h hname fun _ hentry => absurd hentry List.not_mem_nil]
  exact congrArg (Except.map _) hbuild

/-- A name without blanks around it stands for the new rule in every operation. -/
theorem reaches_of_tidy (hname : Text.isTidy name = true) {rule : Rule}
    (hbuild : next.build spec.name [] = .ok rule) : Reaches r next spec name rule := by
  obtain ⟨_, _, _, _, _, hstrip⟩ := register_new h
  obtain ⟨hne, htidy⟩ := Text.isTidy_iff.mp hname
  have hsame : spec.name = name := (hstrip hne).trans htidy
  refine ⟨hsame ▸ hbuild, resolve_register_plain h hne hbuild, fun table => ?_,
    hsame ▸ unregister_register h⟩
  have hthere : ∀ entry ∈ [(name, table)], next.contains entry.1 = true := by
    intro entry hentry
    rw [List.mem_singleton.mp hentry, contains, ← hsame, get?_register_self h]
    rfl
  rw [resolve_register h hne hthere, hsame, optionsFor, Ordered.get?, if_pos rfl]
  rfl

end New

/-- What was written for a new rule stands for it in every operation if and only if there are no
    blanks around it and it is not empty. A run selects the rule by any name that was written
    for it. By other names than these it is not built, given options or left out. -/
theorem register_reaches_iff (calls : List Call) (f : Factory) (hclass : f.IsClass)
    (options : Options) (hoptions : f.model.read [] = .ok options) (name : String)
    (spec : RuleSpec) (next : Registry)
    (h : (standard.run calls).register (.factory f)
      { Registration.plain with name := some name } = .ok (spec, next)) :
    ∃ rule, f.Makes options none rule ∧ next.build spec.name [] = .ok rule ∧
      (Reaches (standard.run calls) next spec name rule ↔ Text.isTidy name = true) ∧
      (name ≠ "" → next.resolve [name] [] = .ok [rule]) ∧
      (Text.isTidy name = false →
        next.build name [] = .error (.unknownRule name) ∧
        (∀ given table tables,
          next.resolve given ((name, table) :: tables) = .error (.unknownRule name)) ∧
        next.unregister name = next) := by
  obtain ⟨rule, hmade, hbuild⟩ := build_register h hclass hoptions
  refine ⟨rule, hmade, hbuild, ⟨fun hreaches => ?_, fun hname => reaches_of_tidy h hname hbuild⟩,
    fun hne => ?_, fun hname => ?_⟩
  · -- What is built by the name is found under it.
    by_contra hname
    have hnone := get?_register_untidy h (isMapOf_run_standard calls) (Bool.eq_false_iff.mpr hname)
    have hbuilt := hreaches.built
    rw [build_of_denies (.unknown hnone)] at hbuilt
    cases hbuilt
  · exact resolve_register_plain h hne hbuild
  · have hnone := get?_register_untidy h (isMapOf_run_standard calls) hname
    exact ⟨build_of_denies (.unknown hnone), fun given table tables =>
      resolve_of_unknown_cons hnone given table tables, unregister_of_unknown hnone⟩

theorem register_reaches_spaced : ∃ spec next rule,
    (standard.run []).register (.factory TrailingWhitespace.factory)
        { Registration.plain with name := some "spaced" } = .ok (spec, next) ∧
      TrailingWhitespace.factory.Makes [] none rule ∧
      Reaches (standard.run []) next spec "spaced" rule := by
  have hregister : ∃ spec next, (standard.run []).register (.factory TrailingWhitespace.factory)
      { Registration.plain with name := some "spaced" } = .ok (spec, next) := ⟨_, _, rfl⟩
  obtain ⟨spec, next, hregister⟩ := hregister
  obtain ⟨rule, hmade, _, hreaches, _⟩ := register_reaches_iff [] TrailingWhitespace.factory
    (isClass_of_mem_builtin (by simp [builtinFactories])) [] rfl "spaced" spec next hregister
  exact ⟨spec, next, rule, hregister, hmade, hreaches.mpr (by decide)⟩

/-- A rule that is registered under a name with blanks around it is not built, given options or
    left out by that name. -/
theorem padded_name_missed : ∃ spec next,
    standard.register (.factory TrailingWhitespace.factory)
        { Registration.plain with name := some " spaced " } = .ok (spec, next) ∧
      TrailingWhitespace.factory.IsClass ∧
      TrailingWhitespace.factory.model.read [] = .ok [] ∧
      standard.get? (Text.strip " spaced ") = none ∧
      next.build " spaced " [] = .error (.unknownRule " spaced ") ∧
      next.resolve [" spaced "] [(" spaced ", [])] = .error (.unknownRule " spaced ") ∧
      next.unregister " spaced " = next ∧
      ∀ rule, ¬ Reaches standard next spec " spaced " rule := by
  have hregister : ∃ spec next, standard.register (.factory TrailingWhitespace.factory)
      { Registration.plain with name := some " spaced " } = .ok (spec, next) := ⟨_, _, rfl⟩
  obtain ⟨spec, next, hregister⟩ := hregister
  have hmap : standard.IsMapOf (empty.changes startUp) := run_startUp ▸ isMapOf_changes startUp
  have hnone := get?_register_untidy hregister hmap (by decide)
  refine ⟨spec, next, hregister, isClass_of_mem_builtin (by simp [builtinFactories]), rfl, rfl,
    build_of_denies (.unknown hnone), resolve_of_unknown_cons hnone _ _ _,
    unregister_of_unknown hnone, ?_⟩
  intro rule hreaches
  have hbuilt := hreaches.built
  rw [build_of_denies (.unknown hnone)] at hbuilt
  cases hbuilt

end Registry

end TokenLint
