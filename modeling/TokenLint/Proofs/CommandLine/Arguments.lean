import TokenLint.CommandLine.Arguments
import TokenLint.Proofs.Result

/-!
# What a Command Line Can Ask For

The reader checks the values of options as it comes to them, so what it hands
on is fit for use: a number of workers is positive, and a log format is one of
the vocabulary. The check of a word depends on the option that it is given to,
which is why the options themselves are followed first, from the words that
name them to the clusters that they end up in: none of them is made up on the
way.

## Main definitions

* `Word.IsKnown`, `Cluster.IsKnown`: Words and clusters whose options are those
  of the program.
* `Arguments.IsSound`: Arguments that have passed their checks.

## Theorems

* `Word.isKnown_of_sort`: Sorting makes up no options.
* `Cluster.isKnown_of_ofWord`: Neither do clusters.
* `Arguments.isSound_of_read`: What is read of a command line has passed.
-/

namespace TokenLint

namespace CommandLine

/-- A word that stands for one of the options of the program, if for any. -/
def Word.IsKnown : Word → Prop
  | option o _ _ => o ∈ OptionSpec.all
  | _ => True

theorem OptionSpec.mem_of_find? {flag : String} {o : OptionSpec} (h : find? flag = some o) :
    o ∈ all :=
  List.mem_of_find?_eq_some h

theorem OptionSpec.mem_of_flagged {flag : String} {o : OptionSpec} (h : (flag, o) ∈ flagged) :
    o ∈ all := by
  rcases List.mem_flatMap.mp h with ⟨o', ho, h⟩
  rcases List.mem_map.mp h with ⟨_, _, heq⟩
  cases heq
  exact ho

/-- Abbreviations stand for options of the program. -/
theorem mem_of_candidates {s flag : String} {o : OptionSpec} {value : Option (List Char)}
    (h : (flag, o, value) ∈ candidates s) : o ∈ OptionSpec.all := by
  rw [candidates] at h
  split at h
  · rcases List.mem_filterMap.mp h with ⟨⟨flag', o'⟩, hflagged, hsome⟩
    simp only [Option.ite_none_right_eq_some, Option.some.injEq, Prod.mk.injEq] at hsome
    rcases hsome with ⟨_, _, rfl, _⟩
    exact OptionSpec.mem_of_flagged hflagged
  · rcases List.mem_filterMap.mp h with ⟨⟨flag', o'⟩, hflagged, hsome⟩
    have ho : o' = o := by
      simp only at hsome
      split at hsome
      · cases hsome; rfl
      · split at hsome
        · cases hsome; rfl
        · cases hsome
    exact ho ▸ OptionSpec.mem_of_flagged hflagged
  · cases h

namespace Word

theorem isKnown_of_ofString {s : String} {word : Word} (h : ofString s = .ok word) :
    word.IsKnown := by
  rw [ofString] at h
  simp only at h
  split at h
  · exact Except.ok.inj h ▸ trivial
  · split at h
    · rename_i o hfind
      exact Except.ok.inj h ▸ OptionSpec.mem_of_find? hfind
    · split at h
      · exact Except.ok.inj h ▸ trivial
      · split at h
        · rename_i o _ hfind
          exact Except.ok.inj h ▸ OptionSpec.mem_of_find? hfind
        · split at h
          · rename_i hone
            have hmem := hone ▸ List.mem_singleton_self _
            exact Except.ok.inj h ▸ mem_of_candidates hmem
          · split at h <;> exact Except.ok.inj h ▸ trivial
          · cases h

/-- Sorting makes up no options. -/
theorem isKnown_of_sort {argv : List String} {words : List Word} (h : sort argv = .ok words) :
    ∀ word ∈ words, word.IsKnown := by
  induction argv generalizing words with
  | nil =>
      rw [← Except.ok.inj h]
      exact fun word hword => absurd hword List.not_mem_nil
  | cons s rest ih =>
      rw [sort] at h
      split at h
      · rw [← Except.ok.inj h]
        intro word hword
        rcases List.mem_cons.mp hword with rfl | hword
        · trivial
        · rcases List.mem_map.mp hword with ⟨_, _, rfl⟩
          trivial
      · rcases ok_of_bind h with ⟨first, hfirst, h⟩
        rcases ok_of_bind h with ⟨others, hothers, h⟩
        rw [← Except.ok.inj h]
        intro word hword
        rcases List.mem_cons.mp hword with rfl | hword
        · exact isKnown_of_ofString hfirst
        · exact ih hothers word hword

end Word

namespace Cluster

/-- A cluster of options of the program, in front of some of the words. -/
def IsKnown (c : Cluster) (words : List Word) : Prop :=
  (∀ p ∈ c.last, p.1 ∈ OptionSpec.all) ∧ c.rest ⊆ words

theorem isKnown_of_alone {o : OptionSpec} (ho : o ∈ OptionSpec.all) {words : List Word} {c : Cluster}
    (h : alone o words = .ok c) : c.IsKnown words := by
  unfold alone at h
  split at h
  · split at h
    · rw [← Except.ok.inj h]
      exact ⟨fun p hp => Option.some.inj hp ▸ ho, List.subset_cons_self _ _⟩
    · cases h
  · rw [← Except.ok.inj h]
    exact ⟨nofun, List.Subset.refl _⟩

theorem isKnown_of_attached {words : List Word} {o : OptionSpec} (ho : o ∈ OptionSpec.all)
    {flag : String} {value : List Char} {c : Cluster}
    (h : attached words o flag value = .ok c) : c.IsKnown words := by
  induction value generalizing o flag c with
  | nil =>
      rw [attached] at h
      split at h
      · rw [← Except.ok.inj h]
        exact ⟨fun p hp => Option.some.inj hp ▸ ho, List.Subset.refl _⟩
      · cases h
  | cons letter more ih =>
      rw [attached] at h
      split at h
      · rw [← Except.ok.inj h]
        exact ⟨fun p hp => Option.some.inj hp ▸ ho, List.Subset.refl _⟩
      · split at h
        · cases h
        · -- The next letter is a flag of its own, if of any option.
          cases hnext : OptionSpec.find? (String.ofList ['-', letter]) with
          | none =>
              simp only [hnext] at h
              cases h
          | some next =>
              simp only [hnext] at h
              have hmem := OptionSpec.mem_of_find? hnext
              rcases ok_of_map h with ⟨others, hothers, rfl⟩
              have hknown : others.IsKnown words := by
                split at hothers
                · exact isKnown_of_alone hmem hothers
                · exact ih hmem hothers
              exact hknown

theorem isKnown_of_ofWord {words : List Word} {o : OptionSpec} (ho : o ∈ OptionSpec.all)
    {flag : String} {value : Option (List Char)} {c : Cluster}
    (h : ofWord o flag value words = .ok c) : c.IsKnown words := by
  cases value with
  | none => exact isKnown_of_alone ho h
  | some value => exact isKnown_of_attached ho h

end Cluster

/-- Arguments that have passed their checks: a number of workers is positive, and a log
    format is one of the vocabulary. -/
structure Arguments.IsSound (a : Arguments) : Prop where
  workers : ∀ n ∈ a.workers, 1 ≤ n
  logFormat : ∀ word ∈ a.logFormat, ∃ f : LogFormat, Vocabulary.ofWord? word = some f

namespace Arguments

theorem isSound_empty : empty.IsSound := ⟨nofun, nofun⟩

/-- The other things that are asked for play no part. -/
theorem IsSound.congr {a b : Arguments} (h : a.IsSound) (hworkers : b.workers = a.workers)
    (hformat : b.logFormat = a.logFormat) : b.IsSound :=
  ⟨hworkers ▸ h.workers, hformat ▸ h.logFormat⟩

theorem IsSound.withoutValue {a : Arguments} (h : a.IsSound) (o : OptionSpec) :
    (a.withoutValue o).IsSound := by
  rw [Arguments.withoutValue]
  cases o.name
  case workers => exact ⟨nofun, h.logFormat⟩
  case logFormat => exact ⟨h.workers, nofun⟩
  all_goals exact h.congr rfl rfl

theorem one_le_of_positiveWhole {raw : String} {n : Int} (h : positiveWhole raw = .ok n) :
    1 ≤ n := by
  rw [positiveWhole] at h
  split at h
  · cases h
  · split at h
    · cases h
    · rename_i hn
      exact Except.ok.inj h ▸ Int.not_lt.mp hn

/-- The words that a log format can be given by are those of the vocabulary. -/
theorem exists_logFormat {o : OptionSpec} (ho : o ∈ OptionSpec.all) (hname : o.name = .logFormat)
    {value : String} (h : ¬(!o.choices.isEmpty ∧ !(o.choices.contains value))) :
    ∃ f : LogFormat, Vocabulary.ofWord? value = some f := by
  have hchoices : ∀ o ∈ OptionSpec.all, o.name = .logFormat → o.choices = ["text", "json"] := by
    decide
  rw [hchoices o ho hname] at h
  have hmem : value ∈ ["text", "json"] := Decidable.byContradiction fun hmem =>
    h ⟨rfl, by rw [Bool.not_eq_true', List.contains_eq_mem, decide_eq_false_iff_not]; exact hmem⟩
  simp only [List.mem_cons, List.not_mem_nil, or_false] at hmem
  rcases hmem with rfl | rfl
  · exact ⟨.text, rfl⟩
  · exact ⟨.json, rfl⟩

theorem IsSound.withValue {a b : Arguments} (h : a.IsSound) {o : OptionSpec}
    (ho : o ∈ OptionSpec.all) {value : String} (hb : a.withValue o value = .ok b) : b.IsSound := by
  rw [Arguments.withValue] at hb
  split at hb
  · rw [← Except.ok.inj hb]
    refine IsSound.withoutValue ?_ o
    exact h.congr rfl rfl
  · split at hb
    · cases hb
    · rename_i hchoice
      split at hb
      case h_4 =>
        split at hb
        · rename_i n hn
          rw [← Except.ok.inj hb]
          refine ⟨fun m hm => ?_, h.logFormat⟩
          rw [← Option.some.inj hm]
          exact one_le_of_positiveWhole hn
        · cases hb
      case h_7 hname =>
        rw [← Except.ok.inj hb]
        refine ⟨h.workers, fun word hword => ?_⟩
        rw [← Option.some.inj hword]
        exact exists_logFormat ho hname hchoice
      all_goals
        exact h.congr (congrArg Arguments.workers (Except.ok.inj hb)).symm
          (congrArg Arguments.logFormat (Except.ok.inj hb)).symm

theorem IsSound.withSwitch {a b : Arguments} (h : a.IsSound) {o : OptionSpec}
    (hb : a.withSwitch o = .ok b) : b.IsSound := by
  rw [Arguments.withSwitch] at hb
  split at hb
  · cases hb
  all_goals
    exact h.congr (congrArg Arguments.workers (Except.ok.inj hb)).symm
      (congrArg Arguments.logFormat (Except.ok.inj hb)).symm

theorem IsSound.switches {a b : Arguments} (h : a.IsSound) {os : List OptionSpec}
    (hb : os.foldlM Arguments.withSwitch a = .ok b) : b.IsSound := by
  induction os generalizing a with
  | nil => exact Except.ok.inj hb ▸ h
  | cons o os ih =>
      rw [List.foldlM_cons] at hb
      rcases ok_of_bind hb with ⟨c, hc, hb⟩
      exact ih (h.withSwitch hc) hb

theorem IsSound.withCluster {a b : Arguments} (h : a.IsSound) {c : Cluster} {words : List Word}
    (hc : c.IsKnown words) (hb : a.withCluster c = .ok b) : b.IsSound := by
  rcases ok_of_bind hb with ⟨d, hd, hb⟩
  have hd := h.switches hd
  split at hb
  · rename_i o value hlast
    exact hd.withValue (hc.1 (o, value) hlast) hb
  · exact Except.ok.inj hb ▸ hd

theorem IsSound.plain {r : Reading} (h : r.found.IsSound) (s : String) :
    (r.plain s).found.IsSound := by
  rw [Reading.plain]
  split
  · exact h.congr rfl rfl
  · exact h

theorem IsSound.finish {r : Reading} (h : r.found.IsSound) (words : List Word) :
    (r.finish words).found.IsSound := by
  rw [Reading.finish]
  split
  · exact h.congr rfl rfl
  · exact h

/-- The words count from left to right, and what is asked for stays sound. -/
theorem IsSound.words {fuel : Nat} {r r' : Reading} {ws : List Word} (h : r.found.IsSound)
    (hws : ∀ word ∈ ws, word.IsKnown) (hr : Reading.words fuel r ws = .ok r') :
    r'.found.IsSound := by
  induction fuel generalizing r ws with
  | zero => exact Except.ok.inj hr ▸ h
  | succ fuel ih =>
      rw [Reading.words.eq_def] at hr
      simp only at hr
      split at hr
      · exact Except.ok.inj hr ▸ h.finish ws
      · split at hr
        · rename_i o flag value rest _
          rcases ok_of_bind hr with ⟨cluster, hcluster, hr⟩
          rcases ok_of_bind hr with ⟨found, hfound, hr⟩
          have hknown := Cluster.isKnown_of_ofWord (hws _ List.mem_cons_self) hcluster
          refine ih ?_ ?_ hr
          · exact h.withCluster hknown hfound
          · exact fun word hword => hws word (List.mem_cons_of_mem _ (hknown.2 hword))
        · refine ih ?_ (fun word hword => hws word (List.mem_cons_of_mem _ hword)) hr
          exact h
        · exact ih (h.plain _) (fun word hword => hws word (List.mem_cons_of_mem _ hword)) hr
        · exact ih (h.plain _) (fun word hword => hws word (List.mem_cons_of_mem _ hword)) hr
        · exact Except.ok.inj hr ▸ h

/-- What is read of a command line has passed its checks. -/
theorem isSound_of_read {argv : List String} {a : Arguments} (h : read argv = .ok a) :
    a.IsSound := by
  rcases ok_of_bind h with ⟨words, hwords, h⟩
  rcases ok_of_bind h with ⟨r, hr, h⟩
  split at h
  · exact Except.ok.inj h ▸ isSound_empty.words (Word.isKnown_of_sort hwords) hr
  · cases h

end Arguments

end CommandLine

end TokenLint
