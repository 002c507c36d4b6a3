import TokenLint.Proofs.Rule.Building
import TokenLint.Proofs.Rule.Registry

/-!
# The Rules of a Run

A run is given names and tables of options by name. Many things can be wrong with
them, and of several only one is reported. Which one does not depend on how the
rules are made: first come the tables, in their order, and a table for a rule
that there is not is the end of it; then come the rules, in the order in which
they are to run, and the first that cannot be made is what is reported.

What is to run is said by the names without the blanks around them, each where it
first occurs, so the same rules are made if names are written again or with
blanks around them. No names at all stand for all rules.

## Main definitions

* `Registry.Selects`: The names of the rules that are to run.
* `Registry.Resolves`: What comes of names and tables.
* `Registry.Restates`: Names that are written again or with blanks around them.

## Theorems

* `Registry.selects_iff`: There is one selection.
* `Registry.resolve_eq_iff`: There is one outcome.
* `Registry.selection_of_restates`: Names that are written again do not matter.
* `Registry.resolve_settles`: What comes of names and tables.
-/

namespace TokenLint

namespace Registry

/-- The names of the rules that are to run. -/
inductive Selects (r : Registry) : List String → List String → Prop
  /-- Without names all rules are to run, in the order of their names. -/
  | all {names : List String} (hascending : names.Pairwise (· < ·))
      (hall : ∀ name, name ∈ names ↔ r.contains name = true) : Selects r [] names
  /-- Otherwise it is the names without blanks around them, each where it first occurs. -/
  | some {given names : List String} (hgiven : given ≠ [])
      (hnames : names = (given.map Text.strip).eraseDups) : Selects r given names

/-- The options that tables have for a rule. -/
def optionsFor (tables : List (String × Table)) (name : String) : Table :=
  (Ordered.get? name tables).getD []

/-- What comes of names and of tables of options. -/
inductive Resolves (r : Registry) (given : List String) (tables : List (String × Table)) :
    Except Failure (List Rule) → Prop
  /-- There is no rule for a table, and there is one for each table in front of it. -/
  | unknownTable {front back : List (String × Table)} {name : String} {table : Table}
      (htables : tables = front ++ (name, table) :: back)
      (hfront : ∀ entry ∈ front, r.contains entry.1 = true) (hname : r.get? name = none) :
      Resolves r given tables (.error (.unknownRule name))
  /-- There is no rule for a name and the options that the tables have for it, and there is one
      for each name in front of it. -/
  | refused {front back : List String} {name : String} {fault : Failure}
      (htables : ∀ entry ∈ tables, r.contains entry.1 = true)
      (hselects : r.Selects given (front ++ name :: back))
      (hfront : ∀ other ∈ front, ∃ rule, r.Gives other (optionsFor tables other) rule)
      (hfault : r.Denies name (optionsFor tables name) fault) :
      Resolves r given tables (.error fault)
  /-- There is a rule for each name and the options that the tables have for it. -/
  | rules {names : List String} {rules : List Rule}
      (htables : ∀ entry ∈ tables, r.contains entry.1 = true) (hselects : r.Selects given names)
      (hrules : List.Forall₂ (fun name rule => r.Gives name (optionsFor tables name) rule)
        names rules) :
      Resolves r given tables (.ok rules)

/-- The same names, some of them written again further on, or with blanks around them. -/
inductive Restates (given : List String) : List String → Prop
  | same : Restates given given
  /-- Blanks are put around a name. -/
  | padded {front back : List String} {name : String} (before after : String)
      (hbefore : ∀ c ∈ before.toList, Text.isBlank c = true)
      (hafter : ∀ c ∈ after.toList, Text.isBlank c = true)
      (h : Restates given (front ++ name :: back)) :
      Restates given (front ++ (before ++ name ++ after) :: back)
  /-- A name is written again behind the place where it is. -/
  | repeated {front back : List String} {name : String} (hname : name ∈ front)
      (h : Restates given (front ++ back)) : Restates given (front ++ name :: back)

/-! ### What is to run -/

/-- Names that are written again or with blanks around them select the same rules. -/
theorem selection_of_restates (r : Registry) {given others : List String}
    (h : Restates given others) : r.selection others = r.selection given := by
  have hdistinct : distinct (others.map Text.strip) = distinct (given.map Text.strip) := by
    induction h with
    | same => rfl
    | padded before after hbefore hafter _ ih =>
        rw [List.map_append, List.map_cons, Text.strip_pad hbefore hafter, ← List.map_cons,
          ← List.map_append, ih]
    | repeated hname _ ih =>
        rw [List.map_append, List.map_cons, distinct_append_of_mem (List.mem_map_of_mem hname),
          ← List.map_append, ih]
  rw [selection, selection, hdistinct]

example : standard.selection [" line-length", "blank-lines", "line-length"] =
    ["line-length", "blank-lines"] := rfl

theorem contains_iff_mem_names (r : Registry) (name : String) :
    name ∈ r.names ↔ r.contains name = true := by
  have hperm : r.names.Perm (r.specs.map (·.1)) := (Ordered.sortByKey_perm r.specs).map _
  rw [hperm.mem_iff, contains, get?, Option.isSome_iff_ne_none, ne_eq, Ordered.get?_eq_none_iff,
    not_not]

section Map

variable {r : Registry} {cs : List Change} (hmap : r.IsMapOf cs)

include hmap

/-- There is one selection. -/
theorem selects_iff (given names : List String) :
    r.Selects given names ↔ names = r.selection given := by
  have hempty : r.selection [] = r.names := rfl
  constructor
  · rintro (⟨hascending, hall⟩ | ⟨hgiven, hnames⟩)
    · -- The order is strict, so there is one way only to list the names by it.
      have hperm : names.Perm r.names := by
        refine (List.perm_ext_iff_of_nodup ?_ ?_).mpr fun name => ?_
        · exact hascending.imp fun hlt => String.ne_of_lt hlt
        · exact hmap.ascending.imp fun hlt => String.ne_of_lt hlt
        · rw [hall, contains_iff_mem_names]
      rw [hempty]
      exact hperm.eq_of_pairwise (fun _ _ _ _ hab hba => absurd hba (String.lt_asymm hab))
        hascending hmap.ascending
    · obtain ⟨name, given, rfl⟩ := List.exists_cons_of_ne_nil hgiven
      rw [hnames, ← distinct_eq_eraseDups]
      rfl
  · rintro rfl
    cases given with
    | nil => exact .all hmap.ascending fun name => contains_iff_mem_names r name
    | cons name given =>
        refine .some (List.cons_ne_nil _ _) ?_
        rw [← distinct_eq_eraseDups]
        rfl

end Map

/-! ### What comes of it -/

section Outcome

variable {r : Registry} {given : List String} {tables : List (String × Table)}

/-- If there is a rule for each table, the rules are built in order. -/
theorem resolve_of_known (htables : ∀ entry ∈ tables, r.contains entry.1 = true) :
    r.resolve given tables =
      (r.selection given).mapM fun name => r.build name (optionsFor tables name) := by
  have hnone : tables.find? (fun entry => !r.contains entry.1) = none := by
    refine List.find?_eq_none.mpr fun entry hentry => ?_
    rw [htables entry hentry]
    decide
  rw [resolve, hnone]
  rfl

/-- Otherwise the first table without a rule is what is reported. -/
theorem resolve_of_unknownTable {front back : List (String × Table)} {name : String}
    {table : Table} (htables : tables = front ++ (name, table) :: back)
    (hfront : ∀ entry ∈ front, r.contains entry.1 = true) (hname : r.get? name = none) :
    r.resolve given tables = .error (.unknownRule name) := by
  have hfirst : tables.find? (fun entry => !r.contains entry.1) = some (name, table) := by
    refine List.find?_eq_some_iff_append.mpr ⟨?_, front, back, htables, fun entry hentry => ?_⟩
    · rw [contains, hname]
      rfl
    · rw [hfront entry hentry]
      rfl
  rw [resolve, hfirst]

variable {cs : List Change} (hmap : r.IsMapOf cs)

include hmap

theorem resolve_of_resolves {outcome : Except Failure (List Rule)}
    (h : r.Resolves given tables outcome) : r.resolve given tables = outcome := by
  cases h with
  | unknownTable htables hfront hname => exact resolve_of_unknownTable htables hfront hname
  | refused htables hselects hfront hfault =>
      rw [resolve_of_known htables, ← (selects_iff hmap _ _).mp hselects, mapM_eq_error_iff]
      refine ⟨_, _, _, rfl, fun other hother => ?_, build_of_denies hfault⟩
      obtain ⟨rule, hrule⟩ := hfront other hother
      exact ⟨rule, build_of_gives hrule⟩
  | rules htables hselects hrules =>
      rw [resolve_of_known htables, ← (selects_iff hmap _ _).mp hselects, mapM_eq_ok_iff]
      exact hrules.imp fun _ _ => build_of_gives

variable (hclass : ∀ name spec, r.get? name = some spec → spec.factory.IsClass)

include hclass

/-- There is an outcome. -/
theorem resolves_resolve : r.Resolves given tables (r.resolve given tables) := by
  cases hfind : tables.find? fun entry => !r.contains entry.1 with
  | some entry =>
      obtain ⟨hname, front, back, htables, hfront⟩ := List.find?_eq_some_iff_append.mp hfind
      have hnone : r.get? entry.1 = none := by
        rw [Bool.not_eq_true'] at hname
        exact Option.isSome_eq_false_iff.mp hname |> Option.isNone_iff_eq_none.mp
      have hknown : ∀ other ∈ front, r.contains other.1 = true := fun other hother => by
        rw [← Bool.not_not (r.contains other.1)]
        exact hfront other hother
      rw [resolve_of_unknownTable htables hknown hnone]
      exact .unknownTable htables hknown hnone
  | none =>
      have htables : ∀ entry ∈ tables, r.contains entry.1 = true := fun entry hentry => by
        have hnot := List.find?_eq_none.mp hfind entry hentry
        rwa [Bool.not_eq_true', Bool.not_eq_false] at hnot
      have hselects := (selects_iff hmap given _).mpr rfl
      rw [resolve_of_known htables]
      cases houtcome : (r.selection given).mapM fun name =>
          r.build name (optionsFor tables name) with
      | error fault =>
          obtain ⟨front, name, back, hsplit, hfront, hfault⟩ := mapM_eq_error_iff.mp houtcome
          rw [hsplit] at hselects
          refine .refused htables hselects (fun other hother => ?_)
            ((build_eq_error_iff (hclass name)).mp hfault)
          obtain ⟨rule, hrule⟩ := hfront other hother
          exact ⟨rule, (build_eq_ok_iff (hclass other)).mp hrule⟩
      | ok rules =>
          refine .rules htables hselects ((mapM_eq_ok_iff.mp houtcome).imp fun name rule h => ?_)
          exact (build_eq_ok_iff (hclass name)).mp h

/-- There is one outcome. -/
theorem resolve_eq_iff (outcome : Except Failure (List Rule)) :
    r.resolve given tables = outcome ↔ r.Resolves given tables outcome := by
  refine ⟨?_, resolve_of_resolves hmap⟩
  rintro rfl
  exact resolves_resolve hmap hclass

end Outcome

/-- What comes of names and tables of options, if all rules are made by classes: one outcome, and
    the same if names are written again or with blanks around them. -/
theorem resolve_settles (calls : List Call)
    (hclass : ∀ name spec, (standard.run calls).get? name = some spec → spec.factory.IsClass)
    (given : List String) (tables : List (String × Table)) :
    (∀ outcome, (standard.run calls).resolve given tables = outcome ↔
      (standard.run calls).Resolves given tables outcome) ∧
    ∀ others, Restates given others →
      (standard.run calls).resolve others tables = (standard.run calls).resolve given tables := by
  refine ⟨resolve_eq_iff (isMapOf_run_standard calls) hclass, fun others h => ?_⟩
  rw [resolve, resolve, selection_of_restates _ h]

theorem resolve_settles_standard :
    (∀ name spec, (standard.run []).get? name = some spec → spec.factory.IsClass) ∧
      ∃ rules, (standard.run []).Resolves [" line-length", "blank-lines", "line-length"]
          [("line-length", [("max_length", .int 80), ("severity", .string " Error ")])]
          (.ok rules) ∧
        rules.map (fun rule => (rule.name, rule.severity, rule.options)) =
          [("line-length", .error, [("max_length", 80)]),
            ("blank-lines", .warning, [("max_blank_lines", 2)])] := by
  have hclass : ∀ name spec, (standard.run []).get? name = some spec → spec.factory.IsClass := by
    intro name spec hspec
    rw [run, List.foldl_nil] at hspec
    exact isClass_of_standard hspec
  have hresolve : ∃ rules, (standard.run []).resolve [" line-length", "blank-lines", "line-length"]
      [("line-length", [("max_length", .int 80), ("severity", .string " Error ")])] = .ok rules ∧
        rules.map (fun rule => (rule.name, rule.severity, rule.options)) =
          [("line-length", .error, [("max_length", 80)]),
            ("blank-lines", .warning, [("max_blank_lines", 2)])] := ⟨_, rfl, rfl⟩
  obtain ⟨rules, hrules, hshown⟩ := hresolve
  exact ⟨hclass, rules, ((resolve_settles [] hclass _ _).1 _).mp hrules, hshown⟩

end Registry

end TokenLint
