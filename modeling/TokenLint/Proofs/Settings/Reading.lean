import TokenLint.Proofs.Result
import TokenLint.Settings.Parse

/-!
# What Settings Are Read From

A setting is read from the value under its name, and its default stands for a
value that is not there. Lists and tables are read element by element, and come
to something only if every element does, so the values that they are read from
can be told from what they come to (`Setting.wordings_eq_ok_iff`,
`Setting.tables_eq_ok_iff`). Settings as a whole are read one by one, and there
is to be nothing else in the table: `Settings.Reads` has a field for each.

## Main definitions

* `Settings.Reads`: The settings that a table has.

## Theorems

* `Setting.gather_eq_ok_iff`: What readings come to together.
* `Setting.wordings_eq_ok_iff`, `Setting.tables_eq_ok_iff`: The values that texts
  and tables are read from.
* `absent_or_read_of_field`: What a setting comes to.
* `Settings.read_eq_ok_iff`, `Settings.reads_of_parse`: The settings that are
  read are those of the table.
* `Settings.Reads.one_le_workers`: They have a positive number of workers.
-/

namespace TokenLint

namespace Setting

/-- Readings come to something together if every one of them does. -/
theorem gather_eq_ok_iff {α : Type} {readings : List (Step × Except Flaw α)} {found : List α} :
    gather readings = .ok found ↔ readings.map (·.2) = found.map Except.ok := by
  induction readings generalizing found with
  | nil =>
      rw [gather, List.map_nil, eq_comm (b := found.map Except.ok), List.map_eq_nil_iff,
        Except.ok.injEq, eq_comm]
  | cons reading readings ih =>
      obtain ⟨step, reading⟩ := reading
      rw [List.map_cons]
      cases reading with
      | error flaw =>
          refine ⟨fun h => ?_, fun h => ?_⟩
          · rw [gather] at h
            split at h <;> cases h
          · cases found with
            | nil => cases h
            | cons a found => cases h
      | ok a =>
          rw [gather]
          constructor
          · intro h
            obtain ⟨rest, hrest, rfl⟩ := ok_of_map h
            rw [List.map_cons, ih.mp hrest]
          · intro h
            cases found with
            | nil => cases h
            | cons b found =>
                rw [List.map_cons, List.cons.injEq, Except.ok.injEq] at h
                rw [ih.mpr h.2, h.1]
                rfl

theorem wording_eq_ok_iff {value : Setting} {text : String} :
    value.wording = .ok text ↔ value = .string text := by
  cases value <;> simp only [wording, Except.ok.injEq, string.injEq, reduceCtorEq]

theorem entries_eq_ok_iff {value : Setting} {t : Table} :
    value.entries = .ok t ↔ value = .table t := by
  cases value <;> simp only [entries, Except.ok.injEq, table.injEq, reduceCtorEq]

/-- What all values of a list come to tells the values, if what one comes to tells it. -/
theorem map_eq_ok_iff {α β : Type} {readValue : α → Except Flaw β} {write : β → α}
    (hread : ∀ value b, readValue value = .ok b ↔ value = write b) {values : List α}
    {found : List β} :
    values.map readValue = found.map Except.ok ↔ values = found.map write := by
  induction values generalizing found with
  | nil => rw [List.map_nil, List.nil_eq, List.map_eq_nil_iff, List.nil_eq, List.map_eq_nil_iff]
  | cons value values ih =>
      cases found with
      | nil => simp only [List.map_cons, List.map_nil, reduceCtorEq]
      | cons b found => rw [List.map_cons, List.map_cons, List.map_cons, List.cons.injEq,
          List.cons.injEq, hread, ih]

/-- Texts are read from a list of them, or from a single one. -/
theorem wordings_eq_ok_iff {value : Setting} {texts : List String} :
    value.wordings = .ok texts ↔
      (∃ text, value = .string text ∧ texts = [text]) ∨ value = .list (texts.map .string) := by
  cases value with
  | string text =>
      simp only [wordings, Except.ok.injEq, string.injEq, reduceCtorEq, or_false,
        exists_eq_left', eq_comm]
  | list items =>
      have hitems : (items.mapIdx fun n item => (Step.index n, item.wording)).map (·.2) =
          items.map wording := by
        refine List.ext_getElem? fun n => ?_
        rw [List.getElem?_map, List.getElem?_mapIdx, List.getElem?_map, Option.map_map]
        rfl
      rw [wordings, gather_eq_ok_iff, hitems, map_eq_ok_iff fun _ _ => wording_eq_ok_iff]
      simp only [reduceCtorEq, false_and, exists_false, false_or, list.injEq]
  | _ => simp only [wordings, reduceCtorEq, false_and, exists_false, or_self]

/-- Tables are read from a table of them. -/
theorem tables_eq_ok_iff {value : Setting} {ts : List (String × Table)} :
    value.tables = .ok ts ↔ value = .table (ts.map fun entry => (entry.1, .table entry.2)) := by
  cases value with
  | table t =>
      have hentry : ∀ (item : String × Setting) (entry : String × Table),
          item.2.entries.map (item.1, ·) = .ok entry ↔ item = (entry.1, .table entry.2) := by
        rintro ⟨name, item⟩ ⟨other, entries⟩
        refine ⟨fun h => ?_, fun h => ?_⟩
        · obtain ⟨found, hfound, heq⟩ := ok_of_map h
          cases heq
          exact congrArg (Prod.mk name) (entries_eq_ok_iff.mp hfound)
        · cases h
          rfl
      rw [tables, gather_eq_ok_iff, List.map_map, table.injEq]
      exact map_eq_ok_iff hentry
  | _ => simp only [tables, reduceCtorEq]

end Setting

namespace Checked

variable {α β : Type}

/-- A function and its argument have nothing wrong with them if the value has not. -/
theorem ok_of_apply {f : Checked (α → β)} {x : Checked α} {b : β}
    (h : apply f x = .ok b) : ∃ g a, f = .ok g ∧ x = .ok a ∧ g a = b := by
  cases f with
  | error vs => cases h
  | ok g =>
      cases x with
      | error vs => cases h
      | ok a => exact ⟨g, a, rfl, rfl, Except.ok.inj h⟩

/-- A result that counts has nothing wrong with it, and there is nothing else wrong. -/
theorem ok_of_refusing {x : Checked α} {more : List Violation} {a : α}
    (h : refusing x more = .ok a) : x = .ok a ∧ more = [] := by
  cases more with
  | nil =>
      cases x with
      | error vs => cases h
      | ok a' => exact ⟨h, rfl⟩
  | cons v vs => cases x <;> cases h

end Checked

/-- A whole number that passes its check has the least value at least. -/
theorem le_of_wholeFrom {least : Int} {value : Setting} {n : Int}
    (h : wholeFrom (some least) value = .ok n) : least ≤ n := by
  rw [wholeFrom] at h
  split at h
  · cases h
  · simp only at h
    split at h
    · cases h
    · rename_i hleast
      rw [← Except.ok.inj h]
      exact Int.not_lt.mp hleast

/-- A value that is there is read. -/
theorem field_of_get? {α : Type} {table : Table} {name : String} {absent : Checked α}
    {readValue : Setting → Checked α} {value : Setting} {a : α}
    (hvalue : Ordered.get? name table = some value) (hread : readValue value = .ok a) :
    field table name absent readValue = .ok a := by
  rw [field, hvalue]
  simp only [hread, Except.mapError]

/-- What a setting comes to is its default or what is read. -/
theorem absent_or_read_of_field {α : Type} {table : Table} {name : String} {absent : Checked α}
    {readValue : Setting → Checked α} {a : α} (h : field table name absent readValue = .ok a) :
    (Ordered.get? name table = none ∧ absent = .ok a) ∨
      ∃ value, Ordered.get? name table = some value ∧ readValue value = .ok a := by
  have h := ok_of_mapError h
  cases hvalue : Ordered.get? name table with
  | none =>
      rw [hvalue] at h
      exact .inl ⟨rfl, h⟩
  | some value =>
      rw [hvalue] at h
      exact .inr ⟨value, rfl, h⟩

namespace Settings

/-- The settings that a table has: each is read from its value or is its default, and there is
    nothing else in the table. -/
structure Reads (source : Option Path) (table : Table) (s : Settings) : Prop where
  interpreter : field table "python" (.ok none) readInterpreter = .ok s.interpreter
  checksSyntax : field table "syntax_check" (.ok true) (Checked.ofFlaw ·.truth) = .ok s.checksSyntax
  rules : field table "rules" (.ok []) (fun x => x.wordings.map tidyList) = .ok s.rules
  ruleOptions :
    field table "rule_options" (.ok []) (fun x => x.tables.map tidyTables) = .ok s.ruleOptions
  extensions : field table "extensions" (.ok defaultExtensions)
    (fun x => x.wordings.map tidyList) = .ok s.extensions
  exclude : field table "exclude" (.ok defaultExclude)
    (fun x => x.wordings.map tidyList) = .ok s.exclude
  workers : field table "workers" (.ok 1) (wholeFrom (some 1)) = .ok s.workers
  failOn : field table "fail_on" (.ok .errors) readPolicy = .ok s.failOn
  source : s.source = source
  known : unexpected names table = []

/-- The settings that are read are those that the table has. -/
theorem read_eq_ok_iff {source : Option Path} {table : Table} {s : Settings} :
    read source table = .ok s ↔ s.Reads source table := by
  constructor
  · intro h
    -- The settings are taken off one by one, the last one first.
    obtain ⟨h₀, hknown⟩ := Checked.ok_of_refusing h
    obtain ⟨_, _, h₁, hsource, rfl⟩ := Checked.ok_of_apply h₀
    obtain ⟨_, _, h₂, hfailOn, rfl⟩ := Checked.ok_of_apply h₁
    obtain ⟨_, _, h₃, hworkers, rfl⟩ := Checked.ok_of_apply h₂
    obtain ⟨_, _, h₄, hexclude, rfl⟩ := Checked.ok_of_apply h₃
    obtain ⟨_, _, h₅, hextensions, rfl⟩ := Checked.ok_of_apply h₄
    obtain ⟨_, _, h₆, hruleOptions, rfl⟩ := Checked.ok_of_apply h₅
    obtain ⟨_, _, h₇, hrules, rfl⟩ := Checked.ok_of_apply h₆
    obtain ⟨_, _, h₈, hchecksSyntax, rfl⟩ := Checked.ok_of_apply h₇
    obtain ⟨_, _, h₉, hinterpreter, rfl⟩ := Checked.ok_of_apply h₈
    cases h₉
    exact ⟨hinterpreter, hchecksSyntax, hrules, hruleOptions, hextensions, hexclude, hworkers,
      hfailOn, (Except.ok.inj hsource).symm, hknown⟩
  · intro h
    obtain ⟨interpreter, checksSyntax, rules, ruleOptions, extensions, exclude, workers, failOn,
      found⟩ := s
    obtain ⟨h₁, h₂, h₃, h₄, h₅, h₆, h₇, h₈, rfl, hknown⟩ := h
    simp only [read, h₁, h₂, h₃, h₄, h₅, h₆, h₇, h₈, hknown]
    rfl

/-- A table that is accepted has the settings that come of it. -/
theorem reads_of_parse {path : Path} {table : Table} {s : Settings}
    (h : parse path table = .ok s) : s.Reads (some path) table := by
  rw [parse] at h
  split at h
  · exact read_eq_ok_iff.mp (ok_of_mapError h)
  · split at h <;> cases h

/-- Settings have a positive number of workers. -/
theorem Reads.one_le_workers {source : Option Path} {table : Table} {s : Settings}
    (h : s.Reads source table) : 1 ≤ s.workers := by
  rcases absent_or_read_of_field h.workers with ⟨_, habsent⟩ | ⟨value, _, hread⟩
  · exact Int.le_of_eq (Except.ok.inj habsent)
  · exact le_of_wholeFrom hread

end Settings

end TokenLint
