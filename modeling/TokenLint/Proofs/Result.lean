import Mathlib.Data.List.Forall2

/-!
# Results of Steps

A result that is put together from steps fails where its first step fails, and
comes to a value only if every step does. These are the inversions that take
such a result apart, one step at a time.

## Theorems

* `ok_of_bind`, `error_of_bind`: Two steps.
* `ok_of_mapError`, `error_of_mapError`: A step whose faults are renamed.
* `ok_of_map`, `error_of_map`: A step whose value is renamed.
* `mapM_eq_ok_iff`, `mapM_eq_error_iff`: A step for each element of a list.
* `error_of_mapM`, `error_of_foldlM`: The fault is that of a step.
-/

namespace TokenLint

variable {ε ε' α β : Type}

theorem ok_of_bind {x : Except ε α} {f : α → Except ε β} {b : β} (h : x >>= f = .ok b) :
    ∃ a, x = .ok a ∧ f a = .ok b := by
  cases x with
  | error e => cases h
  | ok a => exact ⟨a, rfl, h⟩

theorem error_of_bind {x : Except ε α} {f : α → Except ε β} {e : ε} (h : x >>= f = .error e) :
    x = .error e ∨ ∃ a, x = .ok a ∧ f a = .error e := by
  cases x with
  | error e' => exact .inl (congrArg Except.error (Except.error.inj h))
  | ok a => exact .inr ⟨a, rfl, h⟩

theorem ok_of_mapError {x : Except ε α} {f : ε → ε'} {a : α} (h : x.mapError f = .ok a) :
    x = .ok a := by
  cases x with
  | error e => cases h
  | ok a' => exact congrArg Except.ok (Except.ok.inj h)

theorem error_of_mapError {x : Except ε α} {f : ε → ε'} {e : ε'} (h : x.mapError f = .error e) :
    ∃ e', x = .error e' ∧ f e' = e := by
  cases x with
  | error e' => exact ⟨e', rfl, Except.error.inj h⟩
  | ok a => cases h

theorem ok_of_map {x : Except ε α} {f : α → β} {b : β} (h : x.map f = .ok b) :
    ∃ a, x = .ok a ∧ f a = b := by
  cases x with
  | error e => cases h
  | ok a => exact ⟨a, rfl, Except.ok.inj h⟩

theorem error_of_map {x : Except ε α} {f : α → β} {e : ε} (h : x.map f = .error e) :
    x = .error e := by
  cases x with
  | error e' => exact congrArg Except.error (Except.error.inj h)
  | ok a => cases h

/-- Steps for all elements come to the values that the step for each comes to. -/
theorem mapM_eq_ok_iff {f : α → Except ε β} {xs : List α} {ys : List β} :
    xs.mapM f = .ok ys ↔ List.Forall₂ (fun x y => f x = .ok y) xs ys := by
  induction xs generalizing ys with
  | nil => exact ⟨fun h => Except.ok.inj h ▸ .nil, fun h => by cases h; rfl⟩
  | cons x xs ih =>
      rw [List.mapM_cons]
      constructor
      · intro h
        obtain ⟨y, hy, h⟩ := ok_of_bind h
        obtain ⟨rest, hrest, h⟩ := ok_of_bind h
        rw [← Except.ok.inj h]
        exact .cons hy (ih.mp hrest)
      · rintro (_ | ⟨hy, hrest⟩)
        rw [hy, ih.mpr hrest]
        rfl

/-- Steps for all elements fail with the fault of the first element that has one. -/
theorem mapM_eq_error_iff {f : α → Except ε β} {xs : List α} {e : ε} :
    xs.mapM f = .error e ↔ ∃ front x back, xs = front ++ x :: back ∧
      (∀ y ∈ front, ∃ b, f y = .ok b) ∧ f x = .error e := by
  induction xs with
  | nil =>
      refine ⟨(nomatch ·), fun ⟨front, x, back, h, _⟩ => ?_⟩
      cases front <;> cases h
  | cons x xs ih =>
      rw [List.mapM_cons]
      constructor
      · intro h
        rcases error_of_bind h with h | ⟨b, hb, h⟩
        · exact ⟨[], x, xs, rfl, fun _ hy => absurd hy List.not_mem_nil, h⟩
        · rcases error_of_bind h with h | ⟨_, _, h⟩
          · obtain ⟨front, z, back, rfl, hfront, hz⟩ := ih.mp h
            exact ⟨x :: front, z, back, rfl, List.forall_mem_cons.mpr ⟨⟨b, hb⟩, hfront⟩, hz⟩
          · cases h
      · rintro ⟨front, z, back, heq, hfront, hz⟩
        cases front with
        | nil =>
            cases heq
            rw [hz]
            rfl
        | cons y front =>
            cases heq
            obtain ⟨⟨b, hb⟩, hfront⟩ := List.forall_mem_cons.mp hfront
            rw [hb, ih.mpr ⟨front, z, back, rfl, hfront, hz⟩]
            rfl

theorem error_of_foldlM {f : β → α → Except ε β} {xs : List α} {b : β} {e : ε}
    (h : xs.foldlM f b = .error e) : ∃ b' x, f b' x = .error e := by
  induction xs generalizing b with
  | nil => cases h
  | cons x xs ih =>
      rw [List.foldlM_cons] at h
      rcases error_of_bind h with h | ⟨_, _, h⟩
      · exact ⟨b, x, h⟩
      · exact ih h

end TokenLint
