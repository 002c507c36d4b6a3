import Mathlib.Tactic.Choose
import TokenLint.Data.Payload
import TokenLint.Proofs.Data.Grammar

/-!
# Payloads as JSON

A payload loses its kinds when it becomes JSON: words and paths are texts from
then on, tuples are arrays, and keys of any kind are names. Keys that were two may
come to one name, and then a value is lost. Which one is not a matter of the JSON
text, in which no name is there twice; it was settled before, when the fields were
put in one after the other. `Payload.NormalForm` says what remains without such an
order of events: each name is where it first occurs, with the value that it has
last.

Nothing else is lost, as long as there are no numbers with a fraction: the text is
read as the normal form and as nothing else, and a normal form is its own.

## Main definitions

* `Payload.IsExact`: No number in a payload has a fraction or an exponent.
* `Payload.IsLast`: The value that a name has last.
* `Payload.NormalForm`: The JSON value that a payload comes to.

## Theorems

* `Payload.plain_toJson`: An exact payload is JSON that can be read back.
* `Payload.get?_ofPairs_toFields`: What is found under a name.
* `Payload.normalForm_iff`: A payload has one normal form.
* `Payload.toJson_ofJson`: A normal form is its own normal form.
-/

namespace TokenLint

namespace Payload

mutual

/-- There is no number with a fraction or an exponent in the payload, its keys apart. -/
def IsExact : Payload → Prop
  | number _ => False
  | list items | tuple items => AreExact items
  | map entries => EntriesAreExact entries
  | _ => True

/-- There is none in several payloads. -/
def AreExact : List Payload → Prop
  | [] => True
  | x :: xs => x.IsExact ∧ AreExact xs

/-- There is none in the values of several entries. -/
def EntriesAreExact : List (Payload × Payload) → Prop
  | [] => True
  | (_, x) :: rest => x.IsExact ∧ EntriesAreExact rest

end

theorem areExact_iff {items : List Payload} : AreExact items ↔ ∀ x ∈ items, x.IsExact := by
  induction items with
  | nil => exact iff_of_true trivial fun _ h => absurd h List.not_mem_nil
  | cons x xs ih => rw [AreExact, ih, List.forall_mem_cons]

/-- The value is the last one in a map whose key has the text. -/
def IsLast (name : String) (value : Payload) (entries : List (Payload × Payload)) : Prop :=
  ∃ front key back, entries = front ++ (key, value) :: back ∧ key.text = name ∧
    ∀ entry ∈ back, entry.1.text ≠ name

/-- The JSON value that a payload comes to. In an object each name is where it first occurs,
    with the value that it has last. -/
inductive NormalForm : Payload → Json → Prop
  | null : NormalForm null .null
  | bool (b : Bool) : NormalForm (bool b) (.bool b)
  | int (n : Int) : NormalForm (int n) (.int n)
  | number (x : Binary64) : NormalForm (number x) (.number x)
  | string (s : String) : NormalForm (string s) (.string s)
  | symbol (s : Symbol) : NormalForm (symbol s) (.string s.word)
  | path (p : Path) : NormalForm (path p) (.string p.toString)
  | thing (kind text literal : String) : NormalForm (thing kind text literal) (.string text)
  | list {items : List Payload} {values : List Json} (h : List.Forall₂ NormalForm items values) :
      NormalForm (list items) (.array values)
  | tuple {items : List Payload} {values : List Json} (h : List.Forall₂ NormalForm items values) :
      NormalForm (tuple items) (.array values)
  | map {entries : List (Payload × Payload)} {fields : List (String × Json)}
      (hnames : fields.map (·.1) = distinct (entries.map (·.1.text)))
      (last : String × Json → Payload) (hlast : ∀ field ∈ fields, IsLast field.1 (last field) entries)
      (hvalues : ∀ field ∈ fields, NormalForm (last field) field.2) :
      NormalForm (map entries) (.object fields)

theorem IsLast.mem {name : String} {value : Payload} {entries : List (Payload × Payload)}
    (h : IsLast name value entries) : ∃ key, (key, value) ∈ entries := by
  obtain ⟨front, key, back, rfl, _⟩ := h
  exact ⟨key, List.mem_append_right front List.mem_cons_self⟩

theorem toFields_eq (entries : List (Payload × Payload)) :
    toFields entries = entries.map fun e => (e.1.text, e.2.toJson) := by
  induction entries with
  | nil => rfl
  | cons e entries ih => rw [toFields, ih, List.map_cons]

section Plain

mutual

/-- An exact payload is JSON that can be read back. -/
theorem plain_toJson : (v : Payload) → v.IsExact → v.toJson.Plain
  | null, _ | bool _, _ | int _, _ | string _, _ | symbol _, _ | path _, _ | thing _ _ _, _ => trivial
  | number _, h => h
  | list items, h => plain_toJsons items h
  | tuple items, h => plain_toJsons items h
  | map entries, h => by
      have hfields := plain_toFields entries h
      rw [Json.plainFields_iff] at hfields
      exact ⟨(Ordered.keys_ofPairs _).1, Json.plainFields_iff.mpr fun field hfield =>
        hfields field (Ordered.mem_of_mem_ofPairs hfield)⟩

theorem plain_toJsons : (items : List Payload) → AreExact items → Json.PlainItems (toJsons items)
  | [], _ => trivial
  | x :: xs, h => ⟨plain_toJson x h.1, plain_toJsons xs h.2⟩

theorem plain_toFields : (entries : List (Payload × Payload)) → EntriesAreExact entries →
    Json.PlainFields (toFields entries)
  | [], _ => trivial
  | (_, x) :: rest, h => ⟨plain_toJson x h.1, plain_toFields rest h.2⟩

end

end Plain

section NormalForm

/-- What an object has under a name is what the name has last. -/
theorem get?_ofPairs_toFields (name : String) (entries : List (Payload × Payload)) (j : Json) :
    Ordered.get? name (Ordered.ofPairs (toFields entries)) = some j ↔
      ∃ value, IsLast name value entries ∧ value.toJson = j := by
  rw [Ordered.get?_ofPairs_eq_some_iff, toFields_eq]
  constructor
  · rintro ⟨front, back, hsplit, hback⟩
    obtain ⟨front, rest, rfl, rfl, hrest⟩ := List.map_eq_append_iff.mp hsplit
    obtain ⟨⟨key, value⟩, back, rfl, heq, rfl⟩ := List.map_eq_cons_iff.mp hrest
    obtain ⟨hkey, hvalue⟩ := Prod.mk.inj heq
    rw [List.map_map] at hback
    exact ⟨value, ⟨front, key, back, rfl, hkey, fun entry hentry heq =>
      hback (List.mem_map.mpr ⟨entry, hentry, heq⟩)⟩, hvalue⟩
  · rintro ⟨value, ⟨front, key, back, rfl, hkey, hback⟩, rfl⟩
    refine ⟨_, _, by rw [List.map_append, List.map_cons, hkey], fun hmem => ?_⟩
    rw [List.map_map] at hmem
    obtain ⟨entry, hentry, heq⟩ := List.mem_map.mp hmem
    exact hback entry hentry heq

mutual

/-- A payload comes to its JSON value. -/
theorem normalForm_toJson : (v : Payload) → NormalForm v v.toJson
  | null => .null
  | bool b => .bool b
  | int n => .int n
  | number x => .number x
  | string s => .string s
  | symbol s => .symbol s
  | path p => .path p
  | thing kind text literal => .thing kind text literal
  | list items => .list (normalForm_toJsons items)
  | tuple items => .tuple (normalForm_toJsons items)
  | map entries => by
      have hentries := normalForm_entries entries
      have hkept : ∀ field ∈ Ordered.ofPairs (toFields entries), ∃ value,
          IsLast field.1 value entries ∧ value.toJson = field.2 := fun field hfield =>
        (get?_ofPairs_toFields _ _ _).mp (Ordered.get?_of_mem (Ordered.keys_ofPairs _).1 hfield)
      -- What was found under a name is there to be chosen for it.
      choose! last hlast using hkept
      refine .map ?_ last (fun field hfield => (hlast field hfield).1) fun field hfield => ?_
      · rw [Ordered.keys_ofPairs_eq_distinct, toFields_eq, List.map_map]
        rfl
      · obtain ⟨key, hkey⟩ := (hlast field hfield).1.mem
        rw [← (hlast field hfield).2]
        exact hentries (key, last field) hkey

theorem normalForm_toJsons : (items : List Payload) → List.Forall₂ NormalForm items (toJsons items)
  | [] => .nil
  | x :: xs => .cons (normalForm_toJson x) (normalForm_toJsons xs)

theorem normalForm_entries : (entries : List (Payload × Payload)) →
    ∀ entry ∈ entries, NormalForm entry.2 entry.2.toJson
  | [] => fun _ h => absurd h List.not_mem_nil
  | (_, x) :: rest => List.forall_mem_cons.mpr ⟨normalForm_toJson x, normalForm_entries rest⟩

end

mutual

/-- It comes to nothing else. -/
theorem eq_of_normalForm : (v : Payload) → ∀ j, NormalForm v j → j = v.toJson
  | null, _, h | bool _, _, h | int _, _, h | number _, _, h | string _, _, h | symbol _, _, h
  | path _, _, h | thing _ _ _, _, h => by cases h; rfl
  | list items, _, h => by
      cases h with
      | list h => rw [toJson, eq_of_normalForms items _ h]
  | tuple items, _, h => by
      cases h with
      | tuple h => rw [toJson, eq_of_normalForms items _ h]
  | map entries, _, h => by
      have hentries := eq_of_normalForm_entries entries
      cases h with
      | map hnames last hlast hvalues =>
        rw [toJson]
        congr 1
        -- The names are in the same places, so one value for each name is enough.
        refine Ordered.eq_of_keys_eq ?_ (Ordered.keys_ofPairs _).1 fun field hfield => ?_
        · rw [hnames, Ordered.keys_ofPairs_eq_distinct, toFields_eq, List.map_map]
          rfl
        · obtain ⟨key, hkey⟩ := (hlast field hfield).mem
          have hvalue := hentries (key, last field) hkey _ (hvalues field hfield)
          exact Ordered.mem_of_get?_eq_some
            ((get?_ofPairs_toFields _ _ _).mpr ⟨_, hlast field hfield, hvalue.symm⟩)

theorem eq_of_normalForms : (items : List Payload) → ∀ values,
    List.Forall₂ NormalForm items values → values = toJsons items
  | [], _, h => by cases h; rfl
  | x :: xs, _, h => by
      cases h with
      | cons hx hxs => rw [toJsons, eq_of_normalForm x _ hx, eq_of_normalForms xs _ hxs]

theorem eq_of_normalForm_entries : (entries : List (Payload × Payload)) →
    ∀ entry ∈ entries, ∀ j, NormalForm entry.2 j → j = entry.2.toJson
  | [] => fun _ h => absurd h List.not_mem_nil
  | (_, x) :: rest => List.forall_mem_cons.mpr ⟨eq_of_normalForm x, eq_of_normalForm_entries rest⟩

end

mutual

/-- JSON that can be read back is its own normal form. -/
theorem toJson_ofJson : (j : Json) → j.Plain → (ofJson j).toJson = j
  | .null, _ | .bool _, _ | .int _, _ | .number _, _ | .string _, _ => rfl
  | .array items, h => by rw [ofJson, toJson, toJsons_ofJsons items h]
  | .object fields, h => by
      rw [ofJson, toJson, toFields_ofFields fields h.2, Ordered.ofPairs_of_nodup _ h.1]

theorem toJsons_ofJsons : (items : List Json) → Json.PlainItems items →
    toJsons (ofJsons items) = items
  | [], _ => rfl
  | x :: xs, h => by rw [ofJsons, toJsons, toJson_ofJson x h.1, toJsons_ofJsons xs h.2]

theorem toFields_ofFields : (fields : List (String × Json)) → Json.PlainFields fields →
    toFields (ofFields fields) = fields
  | [], _ => rfl
  | (k, x) :: fields, h => by
      rw [ofFields, toFields, toJson_ofJson x h.1, toFields_ofFields fields h.2, text]

end

end NormalForm

end Payload

end TokenLint
