import Mathlib.Data.Finset.Insert
import TokenLint.Data.Conversion
import TokenLint.Proofs.Ordered

/-!
# First Occurrences

Files, rules and settings are named in lists, and whoever names something twice
means it once. What is left of a list then is told in three ways. `distinct`
clears each element out of what follows it. `Pass` goes over the list once and
carries two things along, what it has met and what it has kept, which have to
stay in step. `firstPlaces` looks at every place and asks whether the element
there stands further to the front as well.

The three agree since they do the same with one more element at the end: it is
left out if the list has it already, and goes to the end if not. So each of them
is a law of `xs ++ [x]`, and the agreement an induction that takes elements off
the end.

## Main definitions

* `Pass`: How far a pass over a list has come.
* `Pass.step`, `Pass.ofList`: One element more, and a whole list.
* `Pass.Covers`: What a pass has seen and kept of a list.
* `firstPlaces`: The places where an element stands for the first time.

## Theorems

* `Pass.covers_step`, `Pass.covers_ofList`: Both things stay in step.
* `firstPlaces_append_singleton`: The first places of a longer list.
* `distinct_eq_firstPlaces`: What stands at the first places is what is kept.
* `distinct_append`: What the second of two lists adds to the first.
* `Payload.distinctKeys_alike`: Values of one kind that are told apart by
  equality.
* `distinct_keeps_first`: First occurrences are kept, and nothing else.
-/

namespace TokenLint

/-- How far a pass over a list has come. -/
structure Pass (α : Type) where
  /-- The elements that it has met. -/
  seen : Finset α
  /-- The elements that it has kept, in order. -/
  kept : List α

section FirstOccurrence

variable {α : Type} [DecidableEq α]

namespace Pass

/-- The pass before the first element. -/
def start : Pass α := ⟨∅, []⟩

/-- The pass after one more element, which is kept if it is new. -/
def step (p : Pass α) (x : α) : Pass α :=
  if x ∈ p.seen then p else ⟨insert x p.seen, p.kept ++ [x]⟩

/-- The pass over a whole list. -/
def ofList (xs : List α) : Pass α := xs.foldl step start

/-- A pass has met the elements of a list and has kept each of them once. -/
structure Covers (p : Pass α) (xs : List α) : Prop where
  seen : ∀ x, x ∈ p.seen ↔ x ∈ xs
  kept : p.kept = distinct xs

theorem covers_step {p : Pass α} {xs : List α} (h : p.Covers xs) (x : α) :
    (p.step x).Covers (xs ++ [x]) := by
  rw [step]
  split
  · rename_i hmet
    have hmem : x ∈ xs := (h.seen x).mp hmet
    refine ⟨fun y => ?_, ?_⟩
    · rw [h.seen, List.mem_append, List.mem_singleton]
      exact ⟨Or.inl, fun hy => hy.elim id fun heq => heq ▸ hmem⟩
    · rw [h.kept, distinct_append_of_mem hmem, List.append_nil]
  · rename_i hnew
    refine ⟨fun y => ?_, ?_⟩
    · rw [Finset.mem_insert, h.seen, List.mem_append, List.mem_singleton, or_comm]
    · rw [h.kept, distinct_append_of_not_mem fun hmem => hnew ((h.seen x).mpr hmem)]

theorem covers_ofList (xs : List α) : (ofList xs).Covers xs := by
  induction xs using List.reverseRecOn with
  | nil => exact ⟨fun x => iff_of_false (Finset.notMem_empty x) List.not_mem_nil, rfl⟩
  | append_singleton xs x ih =>
      rw [ofList, List.foldl_append, ← ofList, List.foldl_cons, List.foldl_nil]
      exact covers_step ih x

end Pass

/-- The places of a list where an element stands for the first time. -/
def firstPlaces (xs : List α) : List Nat :=
  (List.range xs.length).filter fun i => ∀ j < i, xs[j]? ≠ xs[i]?

/-- A place is a first one whatever follows, and the last place is one if its element
    is new. -/
theorem firstPlaces_append_singleton (xs : List α) (x : α) :
    firstPlaces (xs ++ [x]) = firstPlaces xs ++ if x ∈ xs then [] else [xs.length] := by
  have hfront : ∀ i < xs.length, (xs ++ [x])[i]? = xs[i]? := fun i hi =>
    List.getElem?_append_left hi
  have hlast : (xs ++ [x])[xs.length]? = some x := List.getElem?_concat_length
  rw [firstPlaces, List.length_append, List.length_singleton, List.range_succ, List.filter_append]
  congr 1
  · refine List.filter_congr fun i hi => ?_
    rw [List.mem_range] at hi
    rw [decide_eq_decide]
    refine forall₂_congr fun j hj => ?_
    rw [hfront i hi, hfront j (Nat.lt_trans hj hi)]
  · -- The new element stands further to the front if and only if the list has it.
    have hmem : (∀ j < xs.length, (xs ++ [x])[j]? ≠ (xs ++ [x])[xs.length]?) ↔ x ∉ xs := by
      rw [List.mem_iff_getElem?, not_exists]
      refine ⟨fun h j hj => ?_, fun h j hj => ?_⟩
      · have hlt : j < xs.length := (List.getElem?_eq_some_iff.mp hj).1
        exact h j hlt (by rw [hfront j hlt, hlast, hj])
      · rw [hfront j hj, hlast]
        exact h j
    rw [List.filter_singleton, decide_eq_decide.mpr hmem]
    by_cases hx : x ∈ xs
    · rw [if_pos hx, decide_eq_false (not_not_intro hx)]
      rfl
    · rw [if_neg hx, decide_eq_true hx]
      rfl

theorem lt_of_mem_firstPlaces {xs : List α} {i : Nat} (h : i ∈ firstPlaces xs) :
    i < xs.length :=
  List.mem_range.mp (List.mem_filter.mp h).1

/-- What stands at the first places is what is kept. -/
theorem distinct_eq_firstPlaces (xs : List α) :
    distinct xs = (firstPlaces xs).filterMap (xs[·]?) := by
  induction xs using List.reverseRecOn with
  | nil => rfl
  | append_singleton xs x ih =>
      have hfront : (firstPlaces xs).filterMap ((xs ++ [x])[·]?) = distinct xs := by
        rw [ih]
        exact List.filterMap_congr fun i hi =>
          List.getElem?_append_left (lt_of_mem_firstPlaces hi)
      rw [firstPlaces_append_singleton, List.filterMap_append, hfront]
      by_cases hx : x ∈ xs
      · rw [if_pos hx, distinct_append_of_mem hx, List.append_nil, List.filterMap_nil,
          List.append_nil]
      · rw [if_neg hx, distinct_append_of_not_mem hx,
          List.filterMap_cons_some (f := ((xs ++ [x])[·]?)) List.getElem?_concat_length,
          List.filterMap_nil]

example : firstPlaces ["b", "a", "b", "c", "a"] = [0, 1, 3] := by decide

theorem distinct_sublist (xs : List α) : (distinct xs).Sublist xs := by
  induction xs with
  | nil => exact List.Sublist.slnil
  | cons x xs ih => exact (List.filter_sublist.trans ih).cons_cons x

/-- The second of two lists adds what the first has not. -/
theorem distinct_append (xs ys : List α) :
    distinct (xs ++ ys) = distinct xs ++ (distinct ys).filter (· ∉ xs) := by
  induction xs with
  | nil =>
      refine (List.filter_eq_self.mpr fun y _ => ?_).symm
      exact decide_eq_true List.not_mem_nil
  | cons x xs ih =>
      rw [List.cons_append, distinct, distinct, ih, List.filter_append, List.filter_filter,
        List.cons_append]
      congr 2
      refine List.filter_congr fun y _ => ?_
      rw [← Bool.decide_and, decide_eq_decide, List.mem_cons, not_or]

/-- Values of one kind that are the same only if they are equal. -/
theorem distinctBy_map {β : Type} {same : β → β → Bool} {f : α → β}
    (h : ∀ x y, same (f x) (f y) = decide (x = y)) (xs : List α) :
    distinctBy same (xs.map f) = (distinct xs).map f := by
  induction xs with
  | nil => rfl
  | cons x xs ih =>
      rw [List.map_cons, distinctBy, ih, List.filter_map, distinct, List.map_cons]
      congr 2
      refine List.filter_congr fun y _ => ?_
      rw [Function.comp_apply, h, ← decide_not, decide_eq_decide, ne_comm]

/-- No element is left twice, and none is lost. What is left stands at the places where
    elements stand for the first time, and is what one pass keeps that remembers what it has
    met. Doing it again changes nothing, and what is added to a list counts only as far as it
    is new. -/
theorem distinct_keeps_first (xs ys : List α) :
    (distinct xs).Nodup ∧ (∀ x, x ∈ distinct xs ↔ x ∈ xs) ∧
      (distinct xs).Sublist xs ∧ distinct xs = (firstPlaces xs).filterMap (xs[·]?) ∧
      distinct xs = (Pass.ofList xs).kept ∧
      distinct (distinct xs) = distinct xs ∧
      distinct (xs ++ ys) = distinct xs ++ (distinct ys).filter (· ∉ xs) :=
  ⟨nodup_distinct xs, fun x => mem_distinct x xs, distinct_sublist xs, distinct_eq_firstPlaces xs,
    (Pass.covers_ofList xs).kept.symm, distinct_of_nodup (nodup_distinct xs), distinct_append xs ys⟩

end FirstOccurrence

namespace Payload

theorem keysFault?_map {α : Type} {f : α → Payload} (h : ∀ x, (f x).keyFault? = none)
    (xs : List α) : keysFault? (xs.map f) = none := by
  induction xs with
  | nil => rw [List.map_nil, keysFault?]
  | cons x xs ih => rw [List.map_cons, keysFault?, h, ih, Option.none_or]

/-- Among values of all kinds, texts and paths are told apart as they are among themselves. -/
theorem distinctKeys_alike (texts : List String) (paths : List Path) :
    distinctKeys (texts.map .string) = .ok ((distinct texts).map .string) ∧
      distinctKeys (paths.map .path) = .ok ((distinct paths).map .path) := by
  have htexts : ∀ s t : String, sameKey (.string s) (.string t) = decide (s = t) := by
    intro s t
    rw [sameKey] <;> simp only [whole?, wording?, reduceCtorEq, implies_true, false_implies]
  have hpaths : ∀ p q : Path, sameKey (.path p) (.path q) = decide (p = q) := by
    intro p q
    rw [sameKey]
  have htext : ∀ s : String, keyFault? (.string s) = none := fun _ => rfl
  have hpath : ∀ p : Path, keyFault? (.path p) = none := fun _ => rfl
  constructor
  · rw [distinctKeys, keysFault?_map htext, distinctBy_map htexts]
  · rw [distinctKeys, keysFault?_map hpath, distinctBy_map hpaths]

end Payload

end TokenLint
