import TokenLint.Proofs.Ordered
import TokenLint.Proofs.Text.Blank
import TokenLint.Rule.Builtin

/-!
# The Registry as a Finite Map

Anybody may register rules and leave rules out, at any time and in any order,
and rules are looked up, built and described in between. What a name stands
for is then a matter of history: it is the rule of the last change to that
name, if that change was a registration that was let through.

Most calls change nothing, so a run is first reduced to its changes. A change
puts a rule under the rule's own name or leaves a name out, and the registry
at the end is found by making the changes one after the other. What has to be
known about names is known of the rules that are put in: a registration that
is let through has stripped the name and looked at what is left of it.

The order of registrations leaves its trace in the list that the rules are
kept in. Nobody gets to see it: every answer is found from the values under
the names alone, since a list of all rules is sorted first.

A factory that breaks down has made no rule, and is among those whose `build`
gives none.

## Main definitions

* `Registry.Call`, `Registry.Answer`: A call on the registry, and its answer.
* `Registry.step`, `Registry.run`: A call, and calls in order.
* `Registry.answers`: The answers to calls in order.
* `Registry.startUp`: The calls that register the rules of the program.
* `Registry.Change`: What a call changes.
* `Registry.changes`: The changes of a run in order.
* `Registry.IsMapOf`: A registry that holds what changes have left.
* `Registry.Obeys`: When calls are refused, and what they leave alone.

## Theorems

* `Registry.register_duplicate_iff`: When a name is taken.
* `Registry.run_eq`: A run is its changes one after the other.
* `Registry.get?_makeAll`: What is found is what the last change has left.
* `Registry.step_alike`, `Registry.answers_alike`: The order of registrations
  is not seen.
* `Registry.run_finite_map`: What a run leaves is the map of its changes.
-/

namespace TokenLint

namespace Registry

/-- A call on a registry. -/
inductive Call where
  /-- A rule is registered. -/
  | register (candidate : Candidate) (wanted : Registration)
  /-- The rule under a name is left out. -/
  | unregister (name : String)
  /-- A rule is built with the options of a table. -/
  | build (name : String) (table : Table)
  /-- The rules of a run are built. -/
  | resolve (given : List String) (tables : List (String × Table))
  /-- The rules are described. -/
  | describe

/-- What a call is answered with. -/
inductive Answer where
  /-- The rule that was registered. -/
  | spec (s : RuleSpec)
  /-- Nothing. -/
  | nothing
  /-- A rule that was built. -/
  | rule (rule : Rule)
  /-- The rules of a run. -/
  | rules (rules : List Rule)
  /-- Descriptions of rules. -/
  | descriptions (ds : List RuleDescription)

/-- The registry after a call, and the answer or the failure. -/
def step (r : Registry) : Call → Registry × Except Failure Answer
  | .register candidate wanted =>
      match r.register candidate wanted with
      | .ok (spec, next) => (next, .ok (.spec spec))
      | .error fault => (r, .error fault)
  | .unregister name => (r.unregister name, .ok .nothing)
  | .build name table => (r, (r.build name table).map .rule)
  | .resolve given tables => (r, (r.resolve given tables).map .rules)
  | .describe => (r, r.describe.map .descriptions)

/-- The registry after calls. One that fails does not end the run. -/
def run (r : Registry) (calls : List Call) : Registry :=
  calls.foldl (fun r call => (r.step call).1) r

/-- The answers to calls, in order. -/
def answers (r : Registry) : List Call → List (Except Failure Answer)
  | [] => []
  | call :: calls => (r.step call).2 :: (r.step call).1.answers calls

/-- The calls that register the rules of the program. -/
def startUp : List Call :=
  builtinFactories.map fun f =>
    .register (.factory f) { Registration.plain with origin := "builtin" }

/-- The calls that ask and do not tell. -/
def Call.asks : Call → Bool
  | .register _ _ | .unregister _ => false
  | .build _ _ | .resolve _ _ | .describe => true

/-- What a call changes. -/
inductive Change where
  /-- A rule comes to stand under its name. -/
  | put (spec : RuleSpec)
  /-- A name comes to stand for nothing. -/
  | drop (name : String)

/-- The name that a change is about. -/
def Change.name : Change → String
  | .put spec => spec.name
  | .drop name => name

/-- What the name stands for after a change. -/
def Change.spec? : Change → Option RuleSpec
  | .put spec => some spec
  | .drop _ => none

/-- The registry with a change made. -/
def make (r : Registry) : Change → Registry
  | .put spec => ⟨Ordered.put spec.name spec r.specs⟩
  | .drop name => r.unregister name

/-- What a call changes, if anything: only a registration that was answered with a rule
    has put one in. -/
def Call.change? : Call → Except Failure Answer → Option Change
  | .register _ _, .ok (.spec spec) => some (.put spec)
  | .unregister name, _ => some (.drop name)
  | _, _ => none

/-- The changes that calls make, in order. -/
def changes (r : Registry) : List Call → List Change
  | [] => []
  | call :: calls => (call.change? (r.step call).2).toList ++ (r.step call).1.changes calls

/-! ### Names -/

section Names

variable (r : Registry) (f : Factory) (candidate : Candidate) (wanted : Registration)

/-- The name that a rule is to have, as it was written: the one asked for unless that is
    empty, and then the one that its factory declares. -/
def writtenName? (wanted : Option String) : Option String :=
  match wanted with
  | some name => if name = "" then f.ruleName else some name
  | none => f.ruleName

theorem nameFor?_eq_some_iff (asked : Option String) (name : String) :
    nameFor? f asked = some name ↔
      ∃ written, writtenName? f asked = some written ∧ Text.strip written = name ∧ name ≠ "" := by
  have heq : nameFor? f asked = ((writtenName? f asked).map Text.strip).filter (· ≠ "") := rfl
  rw [heq, Option.filter_eq_some_iff, Option.map_eq_some_iff, decide_eq_true_eq]
  constructor
  · rintro ⟨⟨written, hwritten, hname⟩, hne⟩
    exact ⟨written, hwritten, hname, hne⟩
  · rintro ⟨written, hwritten, hname, hne⟩
    exact ⟨⟨written, hwritten, hname⟩, hne⟩

/-- The rule that a registration is about, under a name. -/
def specFor (name : String) : RuleSpec :=
  ⟨name, f, wanted.model.getD f.model, wanted.summary.getD f.summary, wanted.origin⟩

/-- A registration that is let through puts the rule under the name that it has found. -/
theorem register_ok {spec : RuleSpec} {next : Registry}
    (h : r.register candidate wanted = .ok (spec, next)) :
    ∃ f written, candidate = .factory f ∧ writtenName? f wanted.name = some written ∧
      Text.strip written ≠ "" ∧ spec = specFor f wanted (Text.strip written) ∧
      next = r.make (.put spec) := by
  cases candidate with
  | other type => cases h
  | factory f =>
      rw [register] at h
      cases hname : nameFor? f wanted.name with
      | none => simp only [hname, reduceCtorEq] at h
      | some name =>
          obtain ⟨written, hwritten, rfl, hne⟩ := (nameFor?_eq_some_iff f _ _).mp hname
          simp only [hname] at h
          split at h
          · cases h
          · cases h
            exact ⟨f, written, rfl, hwritten, hne, rfl, rfl⟩

/-- A name is taken if the rule has a name, there is a rule under it, and that one is not
    to be replaced. -/
theorem register_duplicate_iff (name : String) :
    r.register candidate wanted = .error (.duplicateRule name) ↔
      ∃ f written, candidate = .factory f ∧ writtenName? f wanted.name = some written ∧
        Text.strip written = name ∧ name ≠ "" ∧ r.contains name = true ∧
        wanted.replace = false := by
  cases candidate with
  | other type =>
      refine ⟨fun h => ?_, fun ⟨f, _, hf, _⟩ => ?_⟩
      · rw [register] at h
        cases h
      · cases hf
  | factory f =>
      rw [register]
      constructor
      · intro h
        cases hname : nameFor? f wanted.name with
        | none => simp only [hname, Except.error.injEq, reduceCtorEq] at h
        | some found =>
            simp only [hname] at h
            split at h
            · rename_i htaken
              cases h
              obtain ⟨written, hwritten, hstrip, hne⟩ := (nameFor?_eq_some_iff f _ _).mp hname
              refine ⟨f, written, rfl, hwritten, hstrip, hne, htaken.1, ?_⟩
              rw [← Bool.not_eq_true']
              exact htaken.2
            · cases h
      · -- The name that was written is the one that the registration finds.
        rintro ⟨g, written, hg, hwritten, hstrip, hne, hthere, hkeep⟩
        cases hg
        have hname : nameFor? f wanted.name = some name :=
          (nameFor?_eq_some_iff f _ _).mpr ⟨written, hwritten, hstrip, hne⟩
        simp only [hname]
        rw [if_pos ⟨hthere, by rw [hkeep]; rfl⟩]

end Names

/-! ### Runs and their changes -/

/-- A call leaves its change, or nothing. -/
theorem step_fst (r : Registry) (call : Call) :
    (r.step call).1 = (call.change? (r.step call).2).toList.foldl make r := by
  cases call with
  | register candidate wanted =>
      rw [step]
      cases h : r.register candidate wanted with
      | error fault => rfl
      | ok result =>
          obtain ⟨spec, next⟩ := result
          obtain ⟨_, _, _, _, _, _, hnext⟩ := register_ok r candidate wanted h
          exact hnext
  | unregister name => rfl
  | build name table => rfl
  | resolve given tables => rfl
  | describe => rfl

/-- A run makes its changes one after the other. -/
theorem run_eq (r : Registry) (calls : List Call) :
    r.run calls = (r.changes calls).foldl make r := by
  induction calls generalizing r with
  | nil => rfl
  | cons call calls ih =>
      rw [changes, List.foldl_append, ← step_fst, ← ih, run, List.foldl_cons, ← run]

theorem run_append (r : Registry) (calls more : List Call) :
    r.run (calls ++ more) = (r.run calls).run more := List.foldl_append

/-- The program starts with the registry that its own registrations leave. -/
theorem run_startUp : empty.run startUp = standard := by
  have hstep : ∀ (r : Registry) (f : Factory), (r.step (.register (.factory f)
      { Registration.plain with origin := "builtin" })).1 = r.withBuiltin f := by
    intro r f
    rw [step, withBuiltin]
    cases r.register (.factory f) { Registration.plain with origin := "builtin" } <;> rfl
  rw [run, startUp, List.foldl_map, standard]
  simp only [hstep]

/-- The rule that a registration is answered with has the name that was written for it,
    and there is something left of that without the blanks around it. -/
theorem step_register_ok {r : Registry} {candidate : Candidate} {wanted : Registration}
    {spec : RuleSpec} (h : (r.step (.register candidate wanted)).2 = .ok (.spec spec)) :
    ∃ f written, candidate = .factory f ∧ writtenName? f wanted.name = some written ∧
      Text.strip written ≠ "" ∧ spec = specFor f wanted (Text.strip written) := by
  rw [step] at h
  cases hregister : r.register candidate wanted with
  | error fault => simp only [hregister, reduceCtorEq] at h
  | ok result =>
      obtain ⟨found, next⟩ := result
      simp only [hregister, Except.ok.injEq, Answer.spec.injEq] at h
      obtain ⟨f, written, hf, hwritten, hne, hspec, _⟩ := register_ok r candidate wanted hregister
      exact ⟨f, written, hf, hwritten, hne, h ▸ hspec⟩

/-- A rule that is put in has a name without blanks around it. -/
theorem strip_name_of_put {spec : RuleSpec} (r : Registry) (calls : List Call)
    (h : Change.put spec ∈ r.changes calls) :
    spec.name ≠ "" ∧ Text.strip spec.name = spec.name := by
  induction calls generalizing r with
  | nil => exact absurd h List.not_mem_nil
  | cons call calls ih =>
      rw [changes, List.mem_append, Option.mem_toList] at h
      rcases h with h | h
      · -- Only a registration puts a rule in, and only if it was answered with that rule.
        unfold Call.change? at h
        split at h
        · rename_i candidate wanted found hanswer
          cases h
          obtain ⟨f, written, _, _, hne, rfl⟩ := step_register_ok hanswer
          exact ⟨hne, Text.strip_strip written⟩
        · cases h
        · cases h
      · exact ih _ h

/-! ### What is found -/

/-- A rule stands under a name: the last change to the name has put it there. -/
def Stands (cs : List Change) (key : String) (spec : RuleSpec) : Prop :=
  ∃ before later, cs = before ++ .put spec :: later ∧ spec.name = key ∧
    ∀ c ∈ later, c.name ≠ key

theorem not_stands_nil (key : String) (spec : RuleSpec) : ¬ Stands [] key spec := by
  rintro ⟨before, later, h, _⟩
  rw [eq_comm, List.append_eq_nil_iff] at h
  cases h.2

/-- One more change is the last one to its own name, and is nothing to any other. -/
theorem stands_append_singleton (cs : List Change) (c : Change) (key : String)
    (spec : RuleSpec) :
    Stands (cs ++ [c]) key spec ↔
      if c.name = key then c.spec? = some spec else Stands cs key spec := by
  constructor
  · rintro ⟨before, later, heq, hname, hlater⟩
    rcases List.eq_nil_or_concat later with rfl | ⟨later, d, rfl⟩
    · obtain ⟨-, hc⟩ := List.append_inj' heq rfl
      rw [List.singleton_inj.mp hc]
      exact (if_pos hname).mpr rfl
    · -- The change is about another name, like all behind the one that has put the rule in.
      rw [List.concat_eq_append] at heq hlater
      rw [← List.cons_append, ← List.append_assoc] at heq
      obtain ⟨hcs, hc⟩ := List.append_inj' heq rfl
      have hother := hlater d (List.mem_append_right later List.mem_cons_self)
      rw [List.singleton_inj.mp hc, if_neg hother]
      exact ⟨before, later, hcs, hname, fun e he => hlater e (List.mem_append_left _ he)⟩
  · split
    · rename_i hname
      intro hspec
      cases c with
      | put found =>
          rw [← Option.some.inj hspec]
          exact ⟨cs, [], rfl, hname, fun _ h => absurd h List.not_mem_nil⟩
      | drop name => cases hspec
    · rename_i hother
      rintro ⟨before, later, rfl, hname, hlater⟩
      refine ⟨before, later ++ [c], by rw [List.append_assoc, List.cons_append], hname, ?_⟩
      intro d hd
      rcases List.mem_append.mp hd with hd | hd
      · exact hlater d hd
      · rw [List.mem_singleton.mp hd]
        exact hother

theorem get?_make (r : Registry) (c : Change) (key : String) :
    (r.make c).get? key = if c.name = key then c.spec? else r.get? key := by
  cases c with
  | put spec => exact Ordered.get?_put ..
  | drop name => exact Ordered.get?_erase ..

/-- What is found under a name is what the last change to the name has left. -/
theorem get?_makeAll (cs : List Change) (key : String) (spec : RuleSpec) :
    (cs.foldl make empty).get? key = some spec ↔ Stands cs key spec := by
  -- The last change decides about its name, so the induction takes changes off the end.
  induction cs using List.reverseRecOn with
  | nil => exact ⟨(nomatch ·), fun h => absurd h (not_stands_nil key spec)⟩
  | append_singleton cs c ih =>
      rw [List.foldl_append, List.foldl_cons, List.foldl_nil, get?_make, stands_append_singleton]
      split
      · exact Iff.rfl
      · exact ih

theorem nodup_make (r : Registry) (c : Change) (hkeys : (r.specs.map (·.1)).Nodup) :
    ((r.make c).specs.map (·.1)).Nodup := by
  cases c with
  | put spec => exact Ordered.nodup_put _ _ hkeys
  | drop name => exact Ordered.nodup_erase _ hkeys

theorem nodup_makeAll (cs : List Change) (r : Registry) (hkeys : (r.specs.map (·.1)).Nodup) :
    ((cs.foldl make r).specs.map (·.1)).Nodup := by
  induction cs generalizing r with
  | nil => exact hkeys
  | cons c cs ih => exact ih _ (nodup_make r c hkeys)

/-! ### What is seen -/

section Alike

variable {r other : Registry} (hsame : ∀ key, r.get? key = other.get? key)

include hsame

theorem contains_alike (name : String) : r.contains name = other.contains name := by
  rw [contains, contains, hsame]

theorem build_alike (name : String) (table : Table) :
    r.build name table = other.build name table := by
  rw [build, build, hsame]

theorem defaultSeverity_alike (spec : RuleSpec) :
    r.defaultSeverity spec = other.defaultSeverity spec := by
  rw [defaultSeverity, defaultSeverity, build_alike hsame]

variable (hkeys : (r.specs.map (·.1)).Nodup) (hothers : (other.specs.map (·.1)).Nodup)

include hkeys hothers

theorem sorted_alike : r.sorted = other.sorted :=
  Ordered.sortByKey_eq_of_get? hkeys hothers hsame

theorem resolve_alike (given : List String) (tables : List (String × Table)) :
    r.resolve given tables = other.resolve given tables := by
  simp only [resolve, selection, names, contains_alike hsame, build_alike hsame,
    sorted_alike hsame hkeys hothers]

theorem describe_alike : r.describe = other.describe := by
  simp only [describe, defaultSeverity_alike hsame, sorted_alike hsame hkeys hothers]

/-- Registries with the same rules under the same names answer every call alike, in whatever
    order the rules have come. -/
theorem step_alike (call : Call) : (r.step call).2 = (other.step call).2 := by
  cases call with
  | register candidate wanted =>
      rw [step, step]
      cases candidate with
      | other type => rfl
      | factory f =>
          rw [register, register]
          cases nameFor? f wanted.name with
          | none => rfl
          | some name =>
              -- All that is asked of the registry is whether the name is there.
              simp only [contains_alike hsame]
              by_cases htaken : other.contains name ∧ !wanted.replace
              · rw [if_pos htaken, if_pos htaken]
              · rw [if_neg htaken, if_neg htaken]
  | unregister name => rfl
  | build name table => exact congrArg (Except.map Answer.rule) (build_alike hsame name table)
  | resolve given tables =>
      exact congrArg (Except.map Answer.rules) (resolve_alike hsame hkeys hothers given tables)
  | describe => exact congrArg (Except.map Answer.descriptions) (describe_alike hsame hkeys hothers)

end Alike

/-- One change keeps what is found the same. -/
theorem get?_make_alike {r other : Registry} (hsame : ∀ key, r.get? key = other.get? key)
    (c : Change) (key : String) : (r.make c).get? key = (other.make c).get? key := by
  rw [get?_make, get?_make, hsame]

/-- Nothing that is asked for later on tells such registries apart. -/
theorem answers_alike {r other : Registry} (hsame : ∀ key, r.get? key = other.get? key)
    (hkeys : (r.specs.map (·.1)).Nodup) (hothers : (other.specs.map (·.1)).Nodup)
    (calls : List Call) : r.answers calls = other.answers calls := by
  induction calls generalizing r other with
  | nil => rfl
  | cons call calls ih =>
      have hanswer := step_alike hsame hkeys hothers call
      -- The answer tells which change was made, so both have made the same one.
      rw [answers, answers, hanswer, step_fst r, step_fst other, hanswer]
      congr 1
      refine ih (fun key => ?_) (nodup_makeAll _ r hkeys) (nodup_makeAll _ other hothers)
      cases call.change? (other.step call).2 with
      | none => exact hsame key
      | some c => exact get?_make_alike hsame c key

/-! ### The map -/

/-- A registry that holds what changes have left. -/
structure IsMapOf (r : Registry) (cs : List Change) : Prop where
  /-- A name is not empty, has no surrounding blanks and is that of its rule. -/
  named : ∀ key spec, r.get? key = some spec →
    key ≠ "" ∧ Text.strip key = key ∧ spec.name = key
  /-- No name is there twice. -/
  unique : (r.specs.map (·.1)).Nodup
  /-- What a name stands for was put there by the last change to it. -/
  found : ∀ key spec, r.get? key = some spec ↔
    ∃ before later, cs = before ++ .put spec :: later ∧ spec.name = key ∧
      ∀ c ∈ later, c.name ≠ key
  /-- All rules are listed. -/
  listed : r.sorted.Perm r.specs
  /-- They are listed in the order of their names. -/
  ascending : r.names.Pairwise (· < ·)

/-- When calls on a registry are refused, and what they leave alone. -/
structure Obeys (r : Registry) : Prop where
  /-- The rule of a registration has the name that was written for it, without blanks
      around. -/
  registered : ∀ candidate wanted spec,
    (r.step (.register candidate wanted)).2 = .ok (.spec spec) →
      ∃ f written, candidate = .factory f ∧ writtenName? f wanted.name = some written ∧
        spec = specFor f wanted (Text.strip written)
  /-- A name is taken if it is the name of a rule and not to be replaced. -/
  duplicate : ∀ candidate wanted name,
    (r.step (.register candidate wanted)).2 = .error (.duplicateRule name) ↔
      ∃ f written, candidate = .factory f ∧ writtenName? f wanted.name = some written ∧
        Text.strip written = name ∧ name ≠ "" ∧ r.contains name = true ∧ wanted.replace = false
  /-- What fails changes nothing. -/
  refused : ∀ call fault, (r.step call).2 = .error fault → (r.step call).1 = r
  /-- What asks changes nothing. -/
  asked : ∀ call, Call.asks call = true → (r.step call).1 = r

theorem obeys (r : Registry) : r.Obeys where
  registered candidate wanted spec h := by
    obtain ⟨f, written, hf, hwritten, _, hspec⟩ := step_register_ok h
    exact ⟨f, written, hf, hwritten, hspec⟩
  duplicate candidate wanted name := by
    rw [← register_duplicate_iff, step]
    cases r.register candidate wanted with
    | error fault => simp only [Except.error.injEq]
    | ok result => simp only [reduceCtorEq]
  refused call fault h := by
    cases call with
    | register candidate wanted =>
        rw [step] at h ⊢
        cases hregister : r.register candidate wanted with
        | error fault => rfl
        | ok result => simp only [hregister, reduceCtorEq] at h
    | unregister name => cases h
    | build name table => rfl
    | resolve given tables => rfl
    | describe => rfl
  asked call h := by
    cases call with
    | register candidate wanted => cases h
    | unregister name => cases h
    | build name table => rfl
    | resolve given tables => rfl
    | describe => rfl

/-- What calls leave is the map of the changes that they have made. -/
theorem isMapOf_changes (calls : List Call) : (empty.run calls).IsMapOf (empty.changes calls) := by
  have hfound : ∀ key spec, (empty.run calls).get? key = some spec ↔
      Stands (empty.changes calls) key spec := by
    intro key spec
    rw [run_eq]
    exact get?_makeAll _ key spec
  have hunique : ((empty.run calls).specs.map (·.1)).Nodup := by
    rw [run_eq]
    exact nodup_makeAll _ empty List.nodup_nil
  refine ⟨fun key spec h => ?_, hunique, hfound, Ordered.sortByKey_perm _,
    List.pairwise_map.mpr (Ordered.sortByKey_ascending hunique)⟩
  obtain ⟨before, later, hcs, rfl, _⟩ := (hfound key spec).mp h
  have hput : Change.put spec ∈ empty.changes calls := by
    rw [hcs]
    exact List.mem_append_right before List.mem_cons_self
  obtain ⟨hne, hstrip⟩ := strip_name_of_put empty calls hput
  exact ⟨hne, hstrip, rfl⟩

/-- The program's own registrations are calls like any other. -/
theorem isMapOf_run_standard (calls : List Call) :
    (standard.run calls).IsMapOf (empty.changes (startUp ++ calls)) := by
  rw [← run_startUp, ← run_append]
  exact isMapOf_changes _

/-- Whatever is asked of the registry that the program starts with, it is the map of the
    changes that were made: those of the program's own rules and those that came after.
    What is refused changes nothing, and neither does what only asks. Two runs that leave the
    same rules under the same names list them alike and answer all calls alike from then on,
    in whatever order the rules have come. -/
theorem run_finite_map (calls : List Call) :
    (standard.run calls).IsMapOf (empty.changes (startUp ++ calls)) ∧
      (standard.run calls).Obeys ∧
      ∀ others, (∀ key, (standard.run calls).get? key = (standard.run others).get? key) →
        (standard.run calls).sorted = (standard.run others).sorted ∧
        ∀ more, (standard.run calls).answers more = (standard.run others).answers more := by
  have hmap : ∀ calls, (standard.run calls).IsMapOf (empty.changes (startUp ++ calls)) := by
    -- The program's own registrations are calls like any other.
    intro calls
    rw [← run_startUp, ← run_append]
    exact isMapOf_changes _
  refine ⟨hmap calls, obeys _, fun others hsame => ?_⟩
  exact ⟨sorted_alike hsame (hmap calls).unique (hmap others).unique,
    answers_alike hsame (hmap calls).unique (hmap others).unique⟩

end Registry

end TokenLint
