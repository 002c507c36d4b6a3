import TokenLint.Proofs.Settings.NormalForm

/-!
# Tables of Options

Options are given in tables, one for each rule, and a rule may be named with
blanks around its name. In the settings it has its name without them, so two
tables that were given under different names may be for one rule.

Such tables are not put together, and they are not refused. They are put in
one after the other in the order of their names as these were written, and the
last one is what is found under the name. `Prevails` says which one that is. The
options of the others are gone, except for those that the last one happens to
have as well, and `keepsOptions_iff` is the exact condition under which nothing
is lost. It holds of all tables whose names stay different.

## Main definitions

* `Settings.givenOptions`: The tables of options in a table of settings.
* `Settings.Prevails`: The table that is kept for a rule.
* `Settings.KeepsOptions`: Settings that have every option that was given.

## Theorems

* `Settings.get?_tidyTables`: What is found under a name is what prevails.
* `Settings.exists_prevails`: For every name that was given, a table does.
* `Settings.parse_options`: What becomes of the options that were given.
* `Settings.parse_drops_options`: Two tables for one rule, of which one is lost.
-/

namespace TokenLint

namespace Settings

/-- The tables of options in a table of settings, each by its name as it was written. -/
def givenOptions (table : Table) : List (String × Table) :=
  match Ordered.get? "rule_options" table with
  | some value => value.tables.toOption.getD []
  | none => []

/-- A table that is kept for a rule: of all that were given for it, the one with the last name. -/
structure Prevails (tables : List (String × Table)) (rule : String) (entry : String × Table) :
    Prop where
  mem : entry ∈ tables
  name : Text.strip entry.1 = rule
  last : ∀ other ∈ tables, Text.strip other.1 = rule → other.1 ≤ entry.1

/-- Settings that have every option that was given for a rule under the rule's name. -/
def KeepsOptions (table : Table) (s : Settings) : Prop :=
  ∀ entry ∈ givenOptions table, ∃ kept,
    Ordered.get? (Text.strip entry.1) s.ruleOptions = some kept ∧ ∀ option ∈ entry.2, option ∈ kept

/-- What is found under the name of a rule is the table that prevails. -/
theorem get?_tidyTables {tables : List (String × Table)} (hnames : (tables.map (·.1)).Nodup)
    (rule : String) (options : Table) :
    Ordered.get? rule (tidyTables tables) = some options ↔
      ∃ name, Prevails tables rule (name, options) := by
  have hmem : ∀ entry, entry ∈ Ordered.sortByKey tables ↔ entry ∈ tables := fun _ =>
    (Ordered.sortByKey_perm tables).mem_iff
  have hsorted := Ordered.sortByKey_ascending hnames
  rw [tidyTables_eq_ofPairs, Ordered.get?_ofPairs_eq_some_iff]
  -- The tables are put in by their names, so the last for a rule is the one with the last name.
  constructor
  · rintro ⟨front, back, hsplit, hback⟩
    obtain ⟨front, rest, hfront, rfl, hrest⟩ := List.map_eq_append_iff.mp hsplit
    obtain ⟨⟨name, _⟩, back, rfl, heq, rfl⟩ := List.map_eq_cons_iff.mp hrest
    obtain ⟨hname, rfl⟩ := Prod.mk.inj heq
    rw [hfront] at hmem hsorted
    refine ⟨name, (hmem _).mp (List.mem_append_right _ List.mem_cons_self), hname, ?_⟩
    intro other hother hrule
    rcases List.mem_append.mp ((hmem other).mpr hother) with hother | hother
    · have hlt := (List.pairwise_append.mp hsorted).2.2 other hother _ List.mem_cons_self
      exact String.not_lt.mp (String.lt_asymm hlt)
    · rcases List.mem_cons.mp hother with rfl | hother
      · exact String.le_refl name
      · exact absurd (List.mem_map_of_mem (List.mem_map_of_mem hother)) (hrule ▸ hback)
  · rintro ⟨name, h⟩
    obtain ⟨front, back, hsplit⟩ := List.append_of_mem ((hmem _).mpr h.mem)
    refine ⟨_, _, by rw [hsplit, List.map_append, List.map_cons, h.name], fun hrule => ?_⟩
    rw [List.map_map] at hrule
    obtain ⟨other, hother, heq⟩ := List.mem_map.mp hrule
    rw [hsplit] at hmem hsorted
    have hlt := List.rel_of_pairwise_cons (List.pairwise_append.mp hsorted).2.1 hother
    have hle := h.last other ((hmem other).mp
      (List.mem_append_right _ (List.mem_cons_of_mem _ hother))) heq
    exact String.not_lt.mpr hle hlt

/-- The rules that have a table are those that one was given for. -/
theorem mem_keys_tidyTables (tables : List (String × Table)) (rule : String) :
    rule ∈ (tidyTables tables).map (·.1) ↔ ∃ entry ∈ tables, Text.strip entry.1 = rule := by
  rw [tidyTables_eq_ofPairs, Ordered.keys_ofPairs_eq_distinct, mem_distinct, List.map_map,
    List.mem_map]
  simp only [(Ordered.sortByKey_perm tables).mem_iff, Function.comp_apply]

/-- One of the tables for a rule prevails. -/
theorem exists_prevails {tables : List (String × Table)} (hnames : (tables.map (·.1)).Nodup)
    {entry : String × Table} (h : entry ∈ tables) :
    ∃ last, Prevails tables (Text.strip entry.1) last := by
  cases hfound : Ordered.get? (Text.strip entry.1) (tidyTables tables) with
  | none =>
      have hkey := (mem_keys_tidyTables tables _).mpr ⟨entry, h, rfl⟩
      exact absurd hkey ((Ordered.get?_eq_none_iff _ _).mp hfound)
  | some options =>
      obtain ⟨name, hname⟩ := (get?_tidyTables hnames _ _).mp hfound
      exact ⟨_, hname⟩

/-- No other table prevails where names stay different. -/
theorem Prevails.eq_of_nodup {tables : List (String × Table)} {entry last : String × Table}
    (hnames : (tables.map fun e => Text.strip e.1).Nodup) (h : entry ∈ tables)
    (hlast : Prevails tables (Text.strip entry.1) last) : last = entry :=
  List.inj_on_of_nodup_map hnames hlast.mem h hlast.name

/-- The settings have the tables of options that were given. -/
theorem Reads.ruleOptions_eq {source : Option Path} {table : Table} {s : Settings}
    (h : s.Reads source table) : s.ruleOptions = tidyTables (givenOptions table) := by
  rw [givenOptions]
  rcases absent_or_read_of_field h.ruleOptions with ⟨hnone, habsent⟩ | ⟨value, hvalue, hread⟩
  · rw [← Except.ok.inj habsent]
    simp only [hnone]
    rw [tidyTables, Ordered.sortByKey, List.mergeSort_nil]
    rfl
  · obtain ⟨tables, htables, heq⟩ := ok_of_map hread
    simp only [hvalue, htables, ← heq]
    rfl

section Kept

variable {source : Option Path} {table : Table} {s : Settings}
  (h : s.Reads source table) (hnames : ((givenOptions table).map (·.1)).Nodup)
include h hnames

/-- Under the name of a rule there is the table that prevails, and no other. -/
theorem Reads.get?_ruleOptions (rule : String) (options : Table) :
    Ordered.get? rule s.ruleOptions = some options ↔
      ∃ name, Prevails (givenOptions table) rule (name, options) := by
  rw [h.ruleOptions_eq, get?_tidyTables hnames]

/-- Nothing is lost if the table that prevails has the options of all others for its rule. -/
theorem Reads.keepsOptions_iff :
    KeepsOptions table s ↔ ∀ entry ∈ givenOptions table, ∀ last,
      Prevails (givenOptions table) (Text.strip entry.1) last →
        ∀ option ∈ entry.2, option ∈ last.2 := by
  constructor
  · intro hkeeps entry hentry last hlast
    obtain ⟨kept, hkept, hall⟩ := hkeeps entry hentry
    have hfound := (h.get?_ruleOptions hnames _ _).mpr ⟨last.1, hlast⟩
    rw [hfound, Option.some.injEq] at hkept
    rw [hkept]
    exact hall
  · intro hall entry hentry
    obtain ⟨last, hlast⟩ := exists_prevails hnames hentry
    exact ⟨last.2, (h.get?_ruleOptions hnames _ _).mpr ⟨last.1, hlast⟩, hall entry hentry last hlast⟩

end Kept

/-- Of the tables of options for one rule, that with the last name is kept as it is, and no
    other. So every option is kept if and only if that table has all of them, and it has if
    there is one table for each rule. -/
theorem parse_options {source : Path} {table : Table} {s : Settings}
    (hnames : ((givenOptions table).map (·.1)).Nodup) (h : parse source table = .ok s) :
    (∀ rule options, Ordered.get? rule s.ruleOptions = some options ↔
        ∃ name, Prevails (givenOptions table) rule (name, options)) ∧
      (KeepsOptions table s ↔ ∀ entry ∈ givenOptions table, ∀ last,
        Prevails (givenOptions table) (Text.strip entry.1) last →
          ∀ option ∈ entry.2, option ∈ last.2) ∧
      (((givenOptions table).map fun entry => Text.strip entry.1).Nodup →
        ∀ entry ∈ givenOptions table,
          Ordered.get? (Text.strip entry.1) s.ruleOptions = some entry.2) := by
  have hreads := reads_of_parse h
  refine ⟨hreads.get?_ruleOptions hnames, hreads.keepsOptions_iff hnames, ?_⟩
  intro hrules entry hentry
  obtain ⟨last, hlast⟩ := exists_prevails hnames hentry
  have heq := hlast.eq_of_nodup hrules hentry
  exact (hreads.get?_ruleOptions hnames _ _).mpr ⟨entry.1, heq ▸ hlast⟩

/-- Tables of options of which two are for one rule. -/
def twoForOne : List (String × Table) := [
  ("line-length", [("max_line_length", .int 100)]),
  (" line-length", [("severity", .string "warning")]),
  ("blank-lines ", [("max_blank_lines", .int 1)])]

/-- Settings with these tables. -/
def givenTwice : Table :=
  [("rule_options", .table (twoForOne.map fun entry => (entry.1, .table entry.2)))]

/-- The file that they are in. -/
def givenTwiceFile : Path := ⟨"", ["lexcheck.toml"]⟩

/-- The settings that come of them. -/
def keptOnce : Settings :=
  { standard with ruleOptions := tidyTables twoForOne, source := some givenTwiceFile }

theorem parse_givenTwice : parse givenTwiceFile givenTwice = .ok keptOnce := by
  have hreads : keptOnce.Reads (some givenTwiceFile) givenTwice :=
    ⟨rfl, rfl, rfl, rfl, rfl, rfl, rfl, rfl, rfl, rfl⟩
  have hversion : IsVersion givenTwice := fun _ hprovided => nomatch hprovided
  rw [parse_of_isVersion hversion, read_eq_ok_iff.mpr hreads]
  rfl

/-- A blank comes before every letter, so the name with one in front is not the last. -/
theorem prevails_twoForOne :
    Prevails twoForOne "line-length" ("line-length", [("max_line_length", .int 100)]) where
  mem := List.mem_cons_self
  name := rfl
  last := by decide +kernel

/-- The table with the last name is found as it was given, and so is one that is alone. -/
theorem parse_options_givenTwice :
    ((givenOptions givenTwice).map (·.1)).Nodup ∧
      parse givenTwiceFile givenTwice = .ok keptOnce ∧
      Ordered.get? "line-length" keptOnce.ruleOptions = some [("max_line_length", .int 100)] ∧
      Ordered.get? "blank-lines" keptOnce.ruleOptions = some [("max_blank_lines", .int 1)] := by
  have hnames : ((givenOptions givenTwice).map (·.1)).Nodup := by decide
  have hfound := (parse_options hnames parse_givenTwice).1
  have halone : Prevails twoForOne "blank-lines" ("blank-lines ", [("max_blank_lines", .int 1)]) :=
    ⟨.tail _ (.tail _ (.head _)), rfl, by decide +kernel⟩
  exact ⟨hnames, parse_givenTwice, (hfound _ _).mpr ⟨_, prevails_twoForOne⟩,
    (hfound _ _).mpr ⟨_, halone⟩⟩

/-- Of two tables for one rule, the one with the first name is lost, and the settings are
    accepted all the same. -/
theorem parse_drops_options :
    ((givenOptions givenTwice).map (·.1)).Nodup ∧
      parse givenTwiceFile givenTwice = .ok keptOnce ∧ ¬ KeepsOptions givenTwice keptOnce := by
  have hnames : ((givenOptions givenTwice).map (·.1)).Nodup := by decide
  refine ⟨hnames, parse_givenTwice, fun hkeeps => ?_⟩
  have hlost := ((reads_of_parse parse_givenTwice).keepsOptions_iff hnames).mp hkeeps
    (" line-length", [("severity", .string "warning")]) (.tail _ (.head _)) _ prevails_twoForOne
  simp at hlost

end Settings

end TokenLint
