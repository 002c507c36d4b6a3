/-!
# Ordered collections

Lists without repetition, and lists of pairs used as maps whose keys keep the order in which they were
first put in. Putting a value under a known key replaces the value and leaves the key where it is.

## Main definitions

* `distinct`: A list with only the first occurrence of each element.
* `distinctBy`: The same for a relation in place of equality.
* `Ordered.get?`: The value under a key.
* `Ordered.put`: The map with a value under a key.
* `Ordered.erase`: The map without a key.
* `sortByKey`: Pairs in the order of their keys.
-/

namespace TokenLint

/-- The elements of a list in order, without those that are the same as one before them. -/
def distinctBy {α : Type} (same : α → α → Bool) : List α → List α
  | [] => []
  | x :: xs => x :: (distinctBy same xs).filter fun y => !same x y

/-- The elements of a list in order, each only where it first occurs. -/
def distinct {α : Type} [DecidableEq α] : List α → List α
  | [] => []
  | x :: xs => x :: (distinct xs).filter (· ≠ x)

/-- Elements that are the same only if they are equal are told apart by equality. -/
theorem distinctBy_eq_distinct {α : Type} [DecidableEq α] (xs : List α) :
    distinctBy (fun x y => decide (x = y)) xs = distinct xs := by
  induction xs with
  | nil => rfl
  | cons x xs ih => simp [distinctBy, distinct, ih, eq_comm]

namespace Ordered

variable {κ α : Type} [DecidableEq κ]

/-- The value under a key. -/
def get? (key : κ) : List (κ × α) → Option α
  | [] => none
  | (k, a) :: rest => if k = key then some a else get? key rest

/-- The map with `value` under `key`: in the key's place if it is known, at the end if not. -/
def put (key : κ) (value : α) : List (κ × α) → List (κ × α)
  | [] => [(key, value)]
  | (k, a) :: rest => if k = key then (k, value) :: rest else (k, a) :: put key value rest

/-- The map without a key. -/
def erase (key : κ) (entries : List (κ × α)) : List (κ × α) :=
  entries.filter (·.1 ≠ key)

/-- The map with the value under a key changed. An unknown key changes nothing. -/
def modify (key : κ) (f : α → α) (entries : List (κ × α)) : List (κ × α) :=
  entries.map fun (k, a) => if k = key then (k, f a) else (k, a)

/-- The map that comes of putting pairs in one after the other. -/
def ofPairs (pairs : List (κ × α)) : List (κ × α) :=
  pairs.foldl (fun entries (k, a) => put k a entries) []

/-- The pairs in the order of their keys' code points; pairs with one key stay in their order. -/
def sortByKey (entries : List (String × α)) : List (String × α) :=
  entries.mergeSort fun a b => !(decide (b.1 < a.1))

end Ordered

end TokenLint
