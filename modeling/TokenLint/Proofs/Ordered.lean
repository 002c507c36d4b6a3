import Mathlib.Data.List.Induction
import Mathlib.Data.List.Nodup
import TokenLint.Ordered

/-!
# Laws of Ordered Collections

Dropping repetitions agrees with the library's function that keeps first
occurrences. The proof needs that dropping elements and dropping repetitions
can be exchanged, since one of the two functions looks back at what it has
kept and the other one clears what is still to come.

A map kept as a list of pairs is described by what is found under a key. The
operations on a key that the map does not have are the ones that build a map
up from nothing, so each has its own lemma: such a key is put at the end, and
a change to it changes nothing. As long as no key is there twice, what is found
under the keys says all about a map but the order of its pairs, and the order
is lost when the pairs are sorted.

## Theorems

* `filter_distinct`: Dropping elements and repetitions can be exchanged.
* `distinct_eq_eraseDups`: First occurrences are what is kept.
* `mem_distinct`: Dropping repetitions drops no element.
* `nodup_distinct`, `distinct_of_nodup`: Nothing is left twice, and nothing
  else is dropped.
* `distinct_append_of_mem`, `distinct_append_of_not_mem`: What was there before
  does not matter, and what was not goes to the end.
* `Ordered.get?_eq_none_iff`: Nothing is found under a key that is not there.
* `Ordered.mem_of_get?_eq_some`, `Ordered.get?_of_mem`: What is found under a
  key is what is there with it.
* `Ordered.get?_eq_some_iff`: The first with the key, where it is there twice.
* `Ordered.get?_map_snd`: A change to all values changes what is found.
* `Ordered.get?_map_pair`: A function, kept as a map over some keys.
* `Ordered.put_of_not_mem`: A new key goes to the end.
* `Ordered.ofPairs_of_nodup`: Pairs with keys of their own stay as they are.
* `Ordered.modify_of_not_mem`: A key that is not there has nothing to change.
* `Ordered.erase_of_not_mem`, `Ordered.erase_put`: Neither has it anything to
  take out, and a new key that is taken out again leaves nothing.
* `Ordered.get?_put`, `Ordered.get?_erase`: What is found after a change.
* `Ordered.nodup_put`, `Ordered.nodup_erase`: No key comes to be there twice.
* `Ordered.keys_ofPairs`: Neither does one where pairs are put in.
* `Ordered.keys_ofPairs_eq_distinct`, `Ordered.get?_ofPairs`,
  `Ordered.get?_ofPairs_eq_some_iff`: A key that is put in several times has its
  first place and its last value.
* `Ordered.eq_of_keys_eq`: A map is its keys and what is there with them.
* `Ordered.mergeSort_ascending`: What sorting by keys does.
* `Ordered.sortByKey_perm`, `Ordered.sortByKey_ascending`: The same for pairs.
* `Ordered.get?_sortByKey`: Sorting does not change what is found.
* `Ordered.sortByKey_eq_of_get?`: Maps with the same values are sorted alike.
-/

namespace TokenLint

section Distinct

variable {α : Type} [DecidableEq α]

/-- Dropping elements and dropping repetitions can be exchanged. -/
theorem filter_distinct (p : α → Bool) (xs : List α) :
    (distinct xs).filter p = distinct (xs.filter p) := by
  induction xs with
  | nil => rfl
  | cons y ys ih =>
      rw [distinct]
      by_cases hy : p y = true
      · rw [List.filter_cons_of_pos hy, List.filter_cons_of_pos hy, distinct, ← ih,
          List.filter_filter, List.filter_filter]
        congr 2
        funext z
        exact Bool.and_comm _ _
      · rw [List.filter_cons_of_neg hy, List.filter_cons_of_neg hy, ← ih, List.filter_filter]
        -- What is kept is not `y`, which is not kept.
        refine List.filter_congr fun z _ => ?_
        by_cases hz : p z = true
        · have hne : z ≠ y := by
            rintro rfl
            exact hy hz
          rw [hz, decide_eq_true hne, Bool.and_true]
        · rw [Bool.eq_false_iff.mpr hz, Bool.false_and]

/-- What is kept of each element is its first occurrence. -/
theorem distinct_eq_eraseDups (xs : List α) : distinct xs = xs.eraseDups := by
  generalize hn : xs.length = n
  induction n using Nat.strongRecOn generalizing xs with
  | ind n ih =>
      cases xs with
      | nil => rfl
      | cons y ys =>
          have hfilter : (ys.filter (· ≠ y)).length < n := by
            have hle := List.length_filter_le (fun z => decide (z ≠ y)) ys
            rw [List.length_cons] at hn
            omega
          rw [distinct, filter_distinct, ih _ hfilter _ rfl, List.eraseDups_cons]
          congr 3
          funext z
          by_cases hz : z = y
          · rw [decide_eq_false (fun h => h hz), hz, beq_self_eq_true, Bool.not_true]
          · rw [decide_eq_true hz, beq_eq_false_iff_ne.mpr hz, Bool.not_false]

@[simp] theorem mem_distinct (x : α) (xs : List α) : x ∈ distinct xs ↔ x ∈ xs := by
  rw [distinct_eq_eraseDups, List.mem_eraseDups]

theorem nodup_distinct (xs : List α) : (distinct xs).Nodup := by
  induction xs with
  | nil => exact List.nodup_nil
  | cons y ys ih =>
      rw [distinct, List.nodup_cons]
      refine ⟨fun hy => ?_, ih.sublist List.filter_sublist⟩
      rw [List.mem_filter, decide_eq_true_eq] at hy
      exact hy.2 rfl

/-- Where nothing is there twice, nothing is dropped. -/
theorem distinct_of_nodup {xs : List α} (h : xs.Nodup) : distinct xs = xs := by
  induction xs with
  | nil => rfl
  | cons y ys ih =>
      rw [List.nodup_cons] at h
      have hkeep : ∀ z ∈ ys, decide (z ≠ y) = true := by
        intro z hz
        rw [decide_eq_true_eq]
        rintro rfl
        exact h.1 hz
      rw [distinct, ih h.2, List.filter_eq_self.mpr hkeep]

/-- An element that was there before does not matter. -/
theorem distinct_append_of_mem {x : α} {front : List α} (h : x ∈ front) (back : List α) :
    distinct (front ++ x :: back) = distinct (front ++ back) := by
  induction front with
  | nil => exact absurd h List.not_mem_nil
  | cons y front ih =>
      rw [List.cons_append, List.cons_append, distinct, distinct]
      congr 1
      rcases List.mem_cons.mp h with rfl | h
      · -- It is dropped with all that is equal to the first one.
        have hdrop : ¬ decide (x ≠ x) = true := fun hc => of_decide_eq_true hc rfl
        rw [filter_distinct, filter_distinct, List.filter_append, List.filter_append,
          List.filter_cons_of_neg (p := fun z => decide (z ≠ x)) hdrop]
      · rw [ih h]

/-- A new element is kept at the end. -/
theorem distinct_append_of_not_mem {x : α} {xs : List α} (h : x ∉ xs) :
    distinct (xs ++ [x]) = distinct xs ++ [x] := by
  induction xs with
  | nil => rfl
  | cons y ys ih =>
      rw [List.mem_cons, not_or] at h
      have hkeep : decide (x ≠ y) = true := decide_eq_true h.1
      rw [List.cons_append, distinct, distinct, ih h.2, List.filter_append, List.cons_append,
        List.filter_cons_of_pos (a := x) hkeep, List.filter_nil]

end Distinct

namespace Ordered

variable {κ α : Type} [DecidableEq κ]

theorem get?_eq_none_iff (key : κ) (entries : List (κ × α)) :
    get? key entries = none ↔ key ∉ entries.map (·.1) := by
  induction entries with
  | nil => exact ⟨fun _ => List.not_mem_nil, fun _ => rfl⟩
  | cons entry entries ih =>
      rw [get?, List.map_cons, List.mem_cons, not_or]
      by_cases hkey : entry.1 = key
      · rw [if_pos hkey]
        exact ⟨fun h => by simp only [reduceCtorEq] at h, fun h => absurd hkey.symm h.1⟩
      · rw [if_neg hkey, ih]
        exact ⟨fun h => ⟨fun hc => hkey hc.symm, h⟩, fun h => h.2⟩

/-- What is found under a key is there with the key. -/
theorem mem_of_get?_eq_some {key : κ} {value : α} {entries : List (κ × α)}
    (h : get? key entries = some value) : (key, value) ∈ entries := by
  induction entries with
  | nil => cases h
  | cons entry entries ih =>
      rw [get?] at h
      by_cases hkey : entry.1 = key
      · rw [if_pos hkey, Option.some.injEq] at h
        rw [← hkey, ← h]
        exact List.mem_cons_self
      · rw [if_neg hkey] at h
        exact List.mem_cons_of_mem _ (ih h)

/-- What is there with a key is found under it, if no key is there twice. -/
theorem get?_of_mem {key : κ} {value : α} {entries : List (κ × α)}
    (hkeys : (entries.map (·.1)).Nodup) (h : (key, value) ∈ entries) :
    get? key entries = some value := by
  induction entries with
  | nil => exact absurd h List.not_mem_nil
  | cons entry entries ih =>
      rw [List.map_cons, List.nodup_cons] at hkeys
      rw [get?]
      rcases List.mem_cons.mp h with rfl | h
      · rw [if_pos rfl]
      · have hne : entry.1 ≠ key := by
          intro hc
          exact hkeys.1 (hc ▸ List.mem_map_of_mem h)
        rw [if_neg hne, ih hkeys.2 h]

/-- Keys in front that are not the one looked for do not matter. -/
theorem get?_append_of_not_mem (key : κ) (front back : List (κ × α))
    (h : key ∉ front.map (·.1)) : get? key (front ++ back) = get? key back := by
  induction front with
  | nil => rfl
  | cons entry front ih =>
      rw [List.map_cons, List.mem_cons, not_or] at h
      rw [List.cons_append, get?, if_neg fun hc => h.1 hc.symm, ih h.2]

/-- What is found under a key is the first that is there with it. -/
theorem get?_eq_some_iff (key : κ) (value : α) (entries : List (κ × α)) :
    get? key entries = some value ↔
      ∃ front back, entries = front ++ (key, value) :: back ∧ key ∉ front.map (·.1) := by
  constructor
  · intro h
    induction entries with
    | nil => cases h
    | cons entry entries ih =>
        rw [get?] at h
        split at h
        · rename_i hkey
          refine ⟨[], entries, ?_, List.not_mem_nil⟩
          rw [← hkey, ← Option.some.inj h, List.nil_append]
        · rename_i hkey
          obtain ⟨front, back, rfl, hfront⟩ := ih h
          exact ⟨entry :: front, back, rfl, List.not_mem_cons_of_ne_of_not_mem (Ne.symm hkey) hfront⟩
  · rintro ⟨front, back, rfl, hfront⟩
    rw [get?_append_of_not_mem key front _ hfront, get?, if_pos rfl]

/-- A change to all values changes what is found. -/
theorem get?_map_snd {β : Type} (g : α → β) (key : κ) (entries : List (κ × α)) :
    get? key (entries.map fun entry => (entry.1, g entry.2)) = (get? key entries).map g := by
  induction entries with
  | nil => rfl
  | cons entry entries ih =>
      rw [List.map_cons, get?, get?, ih]
      by_cases hkey : entry.1 = key
      · rw [if_pos hkey, if_pos hkey, Option.map_some]
      · rw [if_neg hkey, if_neg hkey]

/-- A function, kept as a map over some keys, is found again under each. -/
theorem get?_map_pair (f : κ → α) (key : κ) (keys : List κ) (h : key ∈ keys) :
    get? key (keys.map fun k => (k, f k)) = some (f key) := by
  induction keys with
  | nil => exact absurd h List.not_mem_nil
  | cons k keys ih =>
      rw [List.map_cons, get?]
      by_cases hk : k = key
      · rw [if_pos hk, hk]
      · rw [if_neg hk]
        exact ih ((List.mem_cons.mp h).resolve_left fun hc => hk hc.symm)

/-- A new key goes to the end. -/
theorem put_of_not_mem (key : κ) (value : α) (entries : List (κ × α))
    (h : key ∉ entries.map (·.1)) : put key value entries = entries ++ [(key, value)] := by
  induction entries with
  | nil => rfl
  | cons entry entries ih =>
      rw [List.map_cons, List.mem_cons, not_or] at h
      rw [put, if_neg fun hc => h.1 hc.symm, ih h.2, List.cons_append]

/-- Pairs with keys of their own are the map that they make. -/
theorem ofPairs_of_nodup (pairs : List (κ × α)) (h : (pairs.map (·.1)).Nodup) :
    ofPairs pairs = pairs := by
  have hfrom : ∀ front : List (κ × α), ((front ++ pairs).map (·.1)).Nodup →
      pairs.foldl (fun entries pair => put pair.1 pair.2 entries) front = front ++ pairs := by
    clear h
    induction pairs with
    | nil => exact fun front _ => (List.append_nil front).symm
    | cons pair pairs ih =>
        intro front h
        have hnew : pair.1 ∉ front.map (·.1) := by
          rw [List.map_append, List.map_cons, List.nodup_append] at h
          exact fun hmem => h.2.2 _ hmem _ List.mem_cons_self rfl
        have hcons : front ++ pair :: pairs = (front ++ [pair]) ++ pairs := by
          rw [List.append_assoc, List.singleton_append]
        rw [hcons] at h ⊢
        rw [List.foldl_cons, put_of_not_mem pair.1 pair.2 front hnew]
        exact ih _ h
  exact hfrom [] h

/-- A key that is not there has nothing to change. -/
theorem modify_of_not_mem (key : κ) (f : α → α) (entries : List (κ × α))
    (h : key ∉ entries.map (·.1)) : modify key f entries = entries := by
  induction entries with
  | nil => rfl
  | cons entry entries ih =>
      rw [List.map_cons, List.mem_cons, not_or] at h
      have htail := ih h.2
      rw [modify] at htail
      rw [modify, List.map_cons, htail]
      simp only [if_neg fun hc : entry.1 = key => h.1 hc.symm]

/-- A key that is not there has nothing to take out. -/
theorem erase_of_not_mem (key : κ) (entries : List (κ × α)) (h : key ∉ entries.map (·.1)) :
    erase key entries = entries := by
  refine List.filter_eq_self.mpr fun entry hentry => decide_eq_true ?_
  rintro rfl
  exact h (List.mem_map_of_mem hentry)

/-- A new key that is taken out again leaves nothing. -/
theorem erase_put (key : κ) (value : α) (entries : List (κ × α)) (h : key ∉ entries.map (·.1)) :
    erase key (put key value entries) = entries := by
  have hgone : erase key [(key, value)] = [] := by
    refine List.filter_eq_nil_iff.mpr fun entry hentry hkeep => ?_
    rw [List.mem_singleton.mp hentry] at hkeep
    exact of_decide_eq_true hkeep rfl
  rw [put_of_not_mem key value entries h, erase, List.filter_append, ← erase, ← erase, hgone,
    List.append_nil]
  exact erase_of_not_mem key entries h

theorem modify_append (key : κ) (f : α → α) (front back : List (κ × α)) :
    modify key f (front ++ back) = modify key f front ++ modify key f back := by
  rw [modify, List.map_append, ← modify, ← modify]

/-- A value that is put in is what is found under its key, and nothing else changes. -/
theorem get?_put (key other : κ) (value : α) (entries : List (κ × α)) :
    get? other (put key value entries) =
      if key = other then some value else get? other entries := by
  induction entries with
  | nil => rfl
  | cons entry entries ih =>
      rw [put]
      by_cases hkey : entry.1 = key
      · rw [if_pos hkey, get?, get?, hkey]
        by_cases hother : key = other
        · rw [if_pos hother, if_pos hother]
        · rw [if_neg hother, if_neg hother, if_neg hother]
      · rw [if_neg hkey, get?, get?, ih]
        by_cases hother : entry.1 = other
        · rw [if_pos hother, if_neg fun hc => hkey (hother.trans hc.symm), if_pos hother]
        · rw [if_neg hother, if_neg hother]

/-- Nothing is found under a key that was taken out, and nothing else changes. -/
theorem get?_erase (key other : κ) (entries : List (κ × α)) :
    get? other (erase key entries) = if key = other then none else get? other entries := by
  induction entries with
  | nil => rw [erase, List.filter_nil, get?, ite_self]
  | cons entry entries ih =>
      rw [erase] at ih
      rw [erase, get?]
      by_cases hkey : entry.1 = key
      · have hdrop : ¬ decide (entry.1 ≠ key) = true := fun h => of_decide_eq_true h hkey
        rw [List.filter_cons_of_neg (a := entry) hdrop, ih, hkey]
        by_cases hother : key = other
        · rw [if_pos hother, if_pos hother]
        · rw [if_neg hother, if_neg hother, if_neg hother]
      · have hkeep : decide (entry.1 ≠ key) = true := decide_eq_true hkey
        rw [List.filter_cons_of_pos (a := entry) hkeep, get?, ih]
        by_cases hother : entry.1 = other
        · rw [if_pos hother, if_pos hother, if_neg fun hc => hkey (hother.trans hc.symm)]
        · rw [if_neg hother, if_neg hother]

/-- The keys stay where they are, and a new one goes to the end. -/
theorem keys_put (key : κ) (value : α) (entries : List (κ × α)) :
    (put key value entries).map (·.1) =
      if key ∈ entries.map (·.1) then entries.map (·.1) else entries.map (·.1) ++ [key] := by
  by_cases hmem : key ∈ entries.map (·.1)
  · rw [if_pos hmem]
    induction entries with
    | nil => exact absurd hmem List.not_mem_nil
    | cons entry entries ih =>
        rw [put]
        by_cases hkey : entry.1 = key
        · rw [if_pos hkey, List.map_cons, List.map_cons]
        · rw [List.map_cons, List.mem_cons] at hmem
          rw [if_neg hkey, List.map_cons, List.map_cons,
            ih (hmem.resolve_left fun hc => hkey hc.symm)]
  · rw [if_neg hmem, put_of_not_mem key value entries hmem, List.map_append, List.map_singleton]

theorem nodup_put (key : κ) (value : α) {entries : List (κ × α)}
    (hkeys : (entries.map (·.1)).Nodup) : ((put key value entries).map (·.1)).Nodup := by
  rw [keys_put]
  split
  · exact hkeys
  · rename_i hnew
    rw [← List.concat_eq_append]
    exact hkeys.concat hnew

theorem nodup_erase (key : κ) {entries : List (κ × α)}
    (hkeys : (entries.map (·.1)).Nodup) : ((erase key entries).map (·.1)).Nodup :=
  hkeys.sublist (List.filter_sublist.map _)

/-- The last pair is put in last. -/
theorem ofPairs_append_singleton (pairs : List (κ × α)) (pair : κ × α) :
    ofPairs (pairs ++ [pair]) = put pair.1 pair.2 (ofPairs pairs) := by
  rw [ofPairs, List.foldl_append, ← ofPairs, List.foldl_cons, List.foldl_nil]

/-- Pairs that are put in one after the other bring in no key but their own, and none twice. -/
theorem keys_ofPairs (pairs : List (κ × α)) :
    ((ofPairs pairs).map (·.1)).Nodup ∧
      ∀ key ∈ (ofPairs pairs).map (·.1), key ∈ pairs.map (·.1) := by
  -- The last pair is put in last, so the induction takes pairs off the end.
  induction pairs using List.reverseRecOn with
  | nil => exact ⟨List.nodup_nil, fun _ h => h⟩
  | append_singleton pairs pair ih =>
      rw [ofPairs_append_singleton, List.map_append, List.map_singleton]
      refine ⟨nodup_put _ _ ih.1, fun key hkey => ?_⟩
      rw [keys_put] at hkey
      split at hkey
      · exact List.mem_append_left _ (ih.2 key hkey)
      · exact List.mem_append.mpr ((List.mem_append.mp hkey).imp_left (ih.2 key))

/-- Each key has the place where it is first put in. -/
theorem keys_ofPairs_eq_distinct (pairs : List (κ × α)) :
    (ofPairs pairs).map (·.1) = distinct (pairs.map (·.1)) := by
  induction pairs using List.reverseRecOn with
  | nil => rfl
  | append_singleton pairs pair ih =>
      rw [ofPairs_append_singleton, keys_put, ih, List.map_append, List.map_singleton]
      by_cases hkey : pair.1 ∈ pairs.map (·.1)
      · rw [if_pos ((mem_distinct _ _).mpr hkey), distinct_append_of_mem hkey, List.append_nil]
      · rw [if_neg fun hc => hkey ((mem_distinct _ _).mp hc), distinct_append_of_not_mem hkey]

/-- Under each key there is the value that is put in last. -/
theorem get?_ofPairs (key : κ) (pairs : List (κ × α)) :
    get? key (ofPairs pairs) = get? key pairs.reverse := by
  induction pairs using List.reverseRecOn with
  | nil => rfl
  | append_singleton pairs pair ih =>
      rw [ofPairs_append_singleton, get?_put, ih, List.reverse_append, List.reverse_singleton,
        List.singleton_append, get?]

/-- What is found is the last that was put in with the key. -/
theorem get?_ofPairs_eq_some_iff (key : κ) (value : α) (pairs : List (κ × α)) :
    get? key (ofPairs pairs) = some value ↔
      ∃ front back, pairs = front ++ (key, value) :: back ∧ key ∉ back.map (·.1) := by
  rw [get?_ofPairs, get?_eq_some_iff]
  constructor
  · rintro ⟨front, back, h, hfront⟩
    refine ⟨back.reverse, front.reverse, ?_, ?_⟩
    · rw [← List.reverse_reverse pairs, h, List.reverse_append, List.reverse_cons,
        List.append_assoc, List.singleton_append]
    · rwa [List.map_reverse, List.mem_reverse]
  · rintro ⟨front, back, rfl, hback⟩
    refine ⟨back.reverse, front.reverse, ?_, ?_⟩
    · rw [List.reverse_append, List.reverse_cons, List.append_assoc, List.singleton_append]
    · rwa [List.map_reverse, List.mem_reverse]

/-- Pairs that are put in bring in no pair but their own. -/
theorem mem_of_mem_ofPairs {pair : κ × α} {pairs : List (κ × α)} (h : pair ∈ ofPairs pairs) :
    pair ∈ pairs := by
  have hfound := get?_of_mem (keys_ofPairs pairs).1 h
  obtain ⟨front, back, rfl, _⟩ := (get?_ofPairs_eq_some_iff _ _ _).mp hfound
  exact List.mem_append_right front List.mem_cons_self

omit [DecidableEq κ] in
/-- Pairs with the keys of a map that are all in it are the map. -/
theorem eq_of_keys_eq {entries others : List (κ × α)} (hkeys : entries.map (·.1) = others.map (·.1))
    (hothers : (others.map (·.1)).Nodup) (h : ∀ entry ∈ entries, entry ∈ others) :
    entries = others := by
  have hlength : entries.length = others.length := by
    rw [← List.length_map (·.1), hkeys, List.length_map]
  refine List.ext_getElem hlength fun i hi hi' => ?_
  have hkey := List.getElem_of_eq hkeys (by rwa [List.length_map])
  rw [List.getElem_map, List.getElem_map] at hkey
  exact List.inj_on_of_nodup_map hothers (h _ (List.getElem_mem hi)) (List.getElem_mem hi') hkey

theorem sortByKey_perm (entries : List (String × α)) :
    (sortByKey entries).Perm entries := List.mergeSort_perm entries _

/-- Things that are told apart by their keys come one after the other once they are sorted
    by them. -/
theorem mergeSort_ascending {β : Type} (keyOf : β → String) {xs : List β}
    (hkeys : (xs.map keyOf).Nodup) :
    (xs.mergeSort fun a b => !(decide (keyOf b < keyOf a))).Pairwise
      fun a b => keyOf a < keyOf b := by
  have hweak : (xs.mergeSort fun a b => !(decide (keyOf b < keyOf a))).Pairwise
      fun a b => (!decide (keyOf b < keyOf a)) = true := by
    refine List.pairwise_mergeSort (fun a b c hab hbc => ?_) (fun a b => ?_) xs
    · rw [Bool.not_eq_true', decide_eq_false_iff_not, String.not_lt] at hab hbc ⊢
      exact String.le_trans hab hbc
    · rw [Bool.or_eq_true, Bool.not_eq_true', decide_eq_false_iff_not, Bool.not_eq_true',
        decide_eq_false_iff_not, String.not_lt, String.not_lt]
      exact String.le_total (keyOf a) (keyOf b)
  -- Keys in their order are in strict order if all of them are different.
  have hown : ((xs.mergeSort fun a b => !(decide (keyOf b < keyOf a))).map keyOf).Nodup :=
    ((List.mergeSort_perm xs _).map keyOf).nodup_iff.mpr hkeys
  refine (hweak.and (List.pairwise_map.mp hown)).imp fun {a b} h => ?_
  rw [Bool.not_eq_true', decide_eq_false_iff_not, String.not_lt] at h
  by_contra hge
  exact h.2 (String.le_antisymm h.1 (String.not_lt.mp hge))

/-- Sorted pairs with keys of their own come one after the other. -/
theorem sortByKey_ascending {entries : List (String × α)}
    (hkeys : (entries.map (·.1)).Nodup) :
    (sortByKey entries).Pairwise fun a b => a.1 < b.1 :=
  mergeSort_ascending Prod.fst hkeys

/-- Sorting does not change what is found under a key. -/
theorem get?_sortByKey (key : String) {entries : List (String × α)}
    (hkeys : (entries.map (·.1)).Nodup) : get? key (sortByKey entries) = get? key entries := by
  have hperm := sortByKey_perm entries
  have hsorted : ((sortByKey entries).map (·.1)).Nodup := (hperm.map _).nodup_iff.mpr hkeys
  refine Option.ext fun value => ⟨fun h => ?_, fun h => ?_⟩
  · exact get?_of_mem hkeys (hperm.mem_iff.mp (mem_of_get?_eq_some h))
  · exact get?_of_mem hsorted (hperm.mem_iff.mpr (mem_of_get?_eq_some h))

/-- Two maps with the same values are one map once they are sorted. -/
theorem sortByKey_eq_of_get? {entries others : List (String × α)}
    (hkeys : (entries.map (·.1)).Nodup) (hothers : (others.map (·.1)).Nodup)
    (hsame : ∀ key, get? key entries = get? key others) :
    sortByKey entries = sortByKey others := by
  have hmem : ∀ entry : String × α, entry ∈ entries ↔ entry ∈ others := fun entry =>
    ⟨fun h => mem_of_get?_eq_some ((hsame entry.1).symm.trans (get?_of_mem hkeys h)),
      fun h => mem_of_get?_eq_some ((hsame entry.1).trans (get?_of_mem hothers h))⟩
  have hperm : entries.Perm others :=
    (List.perm_ext_iff_of_nodup (hkeys.of_map _) (hothers.of_map _)).mpr hmem
  -- The order is strict, so there is one way only to list the pairs by it.
  refine List.Perm.eq_of_pairwise (fun a b _ _ hab hba => absurd hba (String.lt_asymm hab))
    (sortByKey_ascending hkeys) (sortByKey_ascending hothers) ?_
  exact (sortByKey_perm entries).trans (hperm.trans (sortByKey_perm others).symm)

end Ordered

end TokenLint
