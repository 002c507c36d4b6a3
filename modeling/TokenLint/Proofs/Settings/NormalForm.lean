import TokenLint.Proofs.Ordered
import TokenLint.Proofs.Settings.Reading
import TokenLint.Proofs.Text.Blank

/-!
# Settings in Normal Form

A table of settings may say one thing in many ways. What is kept of it is the
same for all of them: names without blanks around them, none of them empty, each
once and where it first occurs. Such a list is kept as it is when it is read
again, and so is every other setting, so settings that are written out as a table
are read back from it.

Two things are not quite as they were. Tables of options are kept in the order of
their names as these were written, blanks and all, and the second time there are
no blanks, so the order may change. An interpreter that was not given is written
out as the standard one, which is then read like any other name: it stays what
it is unless there are blanks around it.

The version is looked at before anything else, and one that does not count as
zero is refused whatever else there is. The refusal shows the version, and that
is a step that can fail on its own: a whole number with too many digits is not
written. What is reported then is no failure of the program.

## Main definitions

* `Setting.CountsAsZero`: Values that are equal to zero.
* `Settings.Texts`: The texts that a table has under a name.
* `Settings.IsTidied`: A list of names as it is kept.
* `Settings.IsNormal`: Settings as they are kept.
* `Settings.toTable`, `Settings.readBack`: Settings as a table, and what is read
  back from it.
* `Settings.SameAs`: Settings that are equal.
* `Settings.Parses`: What a table of settings comes to.

## Theorems

* `Settings.isTidied_tidyList`, `Settings.IsTidied.tidyList_eq`: What is kept of a
  list is tidied, and of a tidied list everything is kept.
* `Settings.Reads.isNormal`: Settings that are read are in normal form.
* `Settings.IsNormal.read_toTable`: Settings in normal form are read back.
* `Settings.parse_settles`: What a table of settings comes to.
* `Settings.parse_breaks_long`: A version that cannot be shown.
-/

namespace TokenLint

/-- A value that is equal to zero: a number of any kind, or no. -/
inductive Setting.CountsAsZero : Setting → Prop
  | no : CountsAsZero (.bool false)
  | whole : CountsAsZero (.int 0)
  | decimal (negative : Bool) (exponent : Int) :
      CountsAsZero (.number (.finite negative 0 exponent))

theorem Setting.isZero_iff {value : Setting} : value.isZero = true ↔ value.CountsAsZero := by
  constructor
  · intro h
    cases value with
    | bool b =>
        cases b with
        | false => exact .no
        | true => cases h
    | int n =>
        rw [eq_of_beq h]
        exact .whole
    | number x =>
        cases x with
        | finite negative m e =>
            rw [eq_of_beq (a := m) (b := 0) h]
            exact .decimal negative e
        | infinite negative => cases h
        | nan => cases h
    | null => cases h
    | string s => cases h
    | moment m => cases h
    | list items => cases h
    | table entries => cases h
  · rintro (_ | _ | _) <;> rfl

namespace Settings

/-- The texts that a table has under a name: a list of them or a single one, or what stands for
    them where there is nothing. -/
inductive Texts (table : Table) (name : String) (fallback : List String) : List String → Prop
  | absent (h : Ordered.get? name table = none) : Texts table name fallback fallback
  | single {text : String} (h : Ordered.get? name table = some (.string text)) :
      Texts table name fallback [text]
  | several {texts : List String} (h : Ordered.get? name table = some (.list (texts.map .string))) :
      Texts table name fallback texts

/-- A list of names as it is kept. -/
structure IsTidied (given names : List String) : Prop where
  /-- No name is empty or has blanks around it. -/
  tidy : ∀ name ∈ names, Text.isTidy name = true
  /-- No name is there twice. -/
  nodup : names.Nodup
  /-- Every name that was given is there, in the order of first occurrences. -/
  kept : names = ((given.map Text.strip).filter (· ≠ "")).eraseDups

/-- Settings as they are kept. -/
structure IsNormal (source : Path) (table : Table) (s : Settings) : Prop where
  interpreter : ∀ name, s.interpreter = some name → Text.isTidy name = true
  rules : ∃ given, Texts table "rules" [] given ∧ IsTidied given s.rules
  extensions : ∃ given, Texts table "extensions" defaultExtensions given ∧
    IsTidied given s.extensions
  exclude : ∃ given, Texts table "exclude" defaultExclude given ∧ IsTidied given s.exclude
  ruleOptions : ∀ key ∈ s.ruleOptions.map (·.1), Text.strip key = key
  /-- There is one table of options for a rule. -/
  unique : (s.ruleOptions.map (·.1)).Nodup
  workers : 1 ≤ s.workers
  source : s.source = some source

/-- Settings as a table, with the standard interpreter where none was given. -/
def toTable (standard : String) (s : Settings) : Table := [
  ("python", .string (s.interpreter.getD standard)),
  ("syntax_check", .bool s.checksSyntax),
  ("rules", .list (s.rules.map .string)),
  ("rule_options", .table (s.ruleOptions.map fun entry => (entry.1, .table entry.2))),
  ("extensions", .list (s.extensions.map .string)),
  ("exclude", .list (s.exclude.map .string)),
  ("workers", .int s.workers),
  ("fail_on", .string (Vocabulary.word s.failOn))]

/-- Settings with an interpreter that was found, and with the tables of options in the order of
    their names. -/
def readBack (s : Settings) (found : Option String) : Settings :=
  { s with interpreter := found, ruleOptions := Ordered.sortByKey s.ruleOptions }

/-- Settings that are equal: an interpreter that was not given is the standard one, and the order
    of the tables of options does not matter. -/
structure SameAs (standard : String) (s other : Settings) : Prop where
  interpreter : other.interpreter.getD standard = s.interpreter.getD standard
  checksSyntax : other.checksSyntax = s.checksSyntax
  rules : other.rules = s.rules
  ruleOptions : ∀ key, Ordered.get? key other.ruleOptions = Ordered.get? key s.ruleOptions
  extensions : other.extensions = s.extensions
  exclude : other.exclude = s.exclude
  workers : other.workers = s.workers
  failOn : other.failOn = s.failOn
  source : other.source = s.source

/-! ### What is kept -/

theorem isTidied_tidyList (given : List String) : IsTidied given (tidyList given) := by
  refine ⟨fun name hname => ?_, nodup_distinct _, distinct_eq_eraseDups _⟩
  rw [tidyList, mem_distinct, List.mem_filter, List.mem_map, decide_eq_true_eq] at hname
  obtain ⟨⟨text, _, rfl⟩, hne⟩ := hname
  exact Text.isTidy_strip hne

example : tidyList [" b", "", "a", "b "] = ["b", "a"] := rfl

/-- Of a tidied list everything is kept. -/
theorem IsTidied.tidyList_eq {given names : List String} (h : IsTidied given names) :
    tidyList names = names := by
  have hname : ∀ name ∈ names, name ≠ "" ∧ Text.strip name = name := fun name hmem =>
    Text.isTidy_iff.mp (h.tidy name hmem)
  have hstrip : names.map Text.strip = names :=
    (List.map_congr_left fun name hmem => (hname name hmem).2).trans (List.map_id' names)
  have hfilter : names.filter (· ≠ "") = names :=
    List.filter_eq_self.mpr fun name hmem => decide_eq_true (hname name hmem).1
  rw [tidyList, hstrip, hfilter, distinct_of_nodup h.nodup]

theorem isTidy_of_tidyName? {text name : String} (h : tidyName? text = some name) :
    Text.isTidy name = true := by
  rw [tidyName?] at h
  split at h
  · cases h
  · rename_i hne
    rw [← Option.some.inj h]
    exact Text.isTidy_strip hne

theorem isTidy_of_readInterpreter {value : Setting} {found : Option String}
    (h : readInterpreter value = .ok found) :
    ∀ name, found = some name → Text.isTidy name = true := by
  rintro name rfl
  unfold readInterpreter at h
  split at h
  · cases h
  · exact isTidy_of_tidyName? (Except.ok.inj h)
  · cases h

/-- A list that is read from a table is tidied. -/
theorem exists_texts {table : Table} {name : String} {fallback names : List String}
    (hfallback : tidyList fallback = fallback)
    (h : field table name (.ok fallback) (fun x => x.wordings.map tidyList) = .ok names) :
    ∃ given, Texts table name fallback given ∧ IsTidied given names := by
  rcases absent_or_read_of_field h with ⟨hnone, habsent⟩ | ⟨value, hvalue, hread⟩
  · have htidied := isTidied_tidyList fallback
    rw [hfallback] at htidied
    rw [← Except.ok.inj habsent]
    exact ⟨fallback, .absent hnone, htidied⟩
  · obtain ⟨given, hgiven, rfl⟩ := ok_of_map hread
    refine ⟨given, ?_, isTidied_tidyList given⟩
    rcases Setting.wordings_eq_ok_iff.mp hgiven with ⟨text, rfl, rfl⟩ | rfl
    · exact .single hvalue
    · exact .several hvalue

theorem tidyTables_eq_ofPairs (tables : List (String × Table)) :
    tidyTables tables = Ordered.ofPairs
      ((Ordered.sortByKey tables).map fun entry => (Text.strip entry.1, entry.2)) := by
  rw [tidyTables]

/-- Tables of options are kept under names without blanks around them, one for each name. -/
theorem keys_tidyTables (tables : List (String × Table)) :
    ((tidyTables tables).map (·.1)).Nodup ∧
      ∀ key ∈ (tidyTables tables).map (·.1), Text.strip key = key := by
  obtain ⟨hunique, hkeys⟩ := Ordered.keys_ofPairs
    ((Ordered.sortByKey tables).map fun entry => (Text.strip entry.1, entry.2))
  rw [tidyTables_eq_ofPairs]
  refine ⟨hunique, fun key hkey => ?_⟩
  have hstripped := hkeys key hkey
  rw [List.map_map, List.mem_map] at hstripped
  obtain ⟨entry, _, rfl⟩ := hstripped
  exact Text.strip_strip entry.1

theorem keys_of_ruleOptions {table : Table} {found : List (String × Table)}
    (h : field table "rule_options" (.ok []) (fun x => x.tables.map tidyTables) = .ok found) :
    (found.map (·.1)).Nodup ∧ ∀ key ∈ found.map (·.1), Text.strip key = key := by
  rcases absent_or_read_of_field h with ⟨_, habsent⟩ | ⟨value, _, hread⟩
  · rw [← Except.ok.inj habsent]
    exact ⟨List.nodup_nil, fun _ hkey => absurd hkey List.not_mem_nil⟩
  · obtain ⟨tables, _, htables⟩ := ok_of_map hread
    rw [← htables]
    exact keys_tidyTables tables

/-- Tables of options under such names are kept in the order of the names. -/
theorem tidyTables_eq {tables : List (String × Table)} (hunique : (tables.map (·.1)).Nodup)
    (hkeys : ∀ key ∈ tables.map (·.1), Text.strip key = key) :
    tidyTables tables = Ordered.sortByKey tables := by
  have hperm := Ordered.sortByKey_perm tables
  have hstrip : (Ordered.sortByKey tables).map (fun entry => (Text.strip entry.1, entry.2)) =
      Ordered.sortByKey tables := by
    refine (List.map_congr_left fun entry hentry => ?_).trans (List.map_id' _)
    rw [hkeys _ (List.mem_map_of_mem (hperm.subset hentry))]
  have hsorted : ((Ordered.sortByKey tables).map (·.1)).Nodup := (hperm.map _).nodup_iff.mpr hunique
  rw [tidyTables_eq_ofPairs, hstrip, Ordered.ofPairs_of_nodup _ hsorted]

/-- Settings that are read are in normal form. -/
theorem Reads.isNormal {source : Path} {table : Table} {s : Settings}
    (h : s.Reads (some source) table) : s.IsNormal source table where
  interpreter := by
    rcases absent_or_read_of_field h.interpreter with ⟨_, habsent⟩ | ⟨value, _, hread⟩
    · rw [← Except.ok.inj habsent]
      exact nofun
    · exact isTidy_of_readInterpreter hread
  rules := exists_texts rfl h.rules
  extensions := exists_texts (by decide) h.extensions
  exclude := exists_texts (by decide) h.exclude
  ruleOptions := (keys_of_ruleOptions h.ruleOptions).2
  unique := (keys_of_ruleOptions h.ruleOptions).1
  workers := h.one_le_workers
  source := h.source

/-! ### Reading settings back -/

theorem wordings_list (texts : List String) :
    (Setting.list (texts.map .string)).wordings = .ok texts :=
  Setting.wordings_eq_ok_iff.mpr (.inr rfl)

theorem IsTidied.read_list {given names : List String} (h : IsTidied given names) :
    (Setting.list (names.map .string)).wordings.map tidyList = .ok names := by
  rw [wordings_list, Except.map, h.tidyList_eq]

theorem readPolicy_word (policy : FailPolicy) :
    readPolicy (.string (Vocabulary.word policy)) = .ok policy := by
  cases policy <;> decide +kernel

/-- Settings in normal form are read back from the table that they are written out as. -/
theorem IsNormal.read_toTable {source : Path} {table : Table} {s : Settings}
    (h : s.IsNormal source table) (standard : String) {found : Option String}
    (hfound : tidyName? (s.interpreter.getD standard) = found) :
    read (some source) (s.toTable standard) = .ok (s.readBack found) := by
  obtain ⟨_, _, hrules⟩ := h.rules
  obtain ⟨_, _, hextensions⟩ := h.extensions
  obtain ⟨_, _, hexclude⟩ := h.exclude
  have hinterpreter :
      readInterpreter (.string (s.interpreter.getD standard)) = .ok found := by
    rw [readInterpreter, hfound]
  have htables : (Setting.table (s.ruleOptions.map fun entry =>
      (entry.1, .table entry.2))).tables.map tidyTables = .ok (Ordered.sortByKey s.ruleOptions) := by
    rw [Setting.tables_eq_ok_iff.mpr rfl, Except.map, tidyTables_eq h.unique h.ruleOptions]
  have hworkers : wholeFrom (some 1) (.int s.workers) = .ok s.workers := by
    have hread : (Setting.int s.workers).whole = .ok s.workers := rfl
    rw [wholeFrom, hread]
    exact if_neg (Int.not_lt.mpr h.workers)
  exact read_eq_ok_iff.mpr {
    interpreter := field_of_get? rfl hinterpreter
    checksSyntax := field_of_get? rfl rfl
    rules := field_of_get? rfl hrules.read_list
    ruleOptions := field_of_get? rfl htables
    extensions := field_of_get? rfl hextensions.read_list
    exclude := field_of_get? rfl hexclude.read_list
    workers := field_of_get? rfl hworkers
    failOn := field_of_get? rfl (readPolicy_word s.failOn)
    source := h.source
    known := rfl }

/-- What is read back is equal to the settings if the interpreter is. -/
theorem IsNormal.sameAs_readBack_iff {source : Path} {table : Table} {s : Settings}
    (h : s.IsNormal source table) (standard : String) (found : Option String) :
    s.SameAs standard (s.readBack found) ↔
      found.getD standard = s.interpreter.getD standard :=
  ⟨fun hsame => hsame.interpreter, fun hfound =>
    ⟨hfound, rfl, rfl, fun key => Ordered.get?_sortByKey key h.unique, rfl, rfl, rfl, rfl, rfl⟩⟩

/-- An interpreter that is written out and read stays what it is, unless none was given and the
    standard one has blanks around it, and something else. -/
theorem IsNormal.getD_tidyName?_iff {source : Path} {table : Table} {s : Settings}
    (h : s.IsNormal source table) (standard : String) :
    (tidyName? (s.interpreter.getD standard)).getD standard = s.interpreter.getD standard ↔
      (s.interpreter = none → Text.strip standard = standard ∨ Text.strip standard = "") := by
  cases hinterpreter : s.interpreter with
  | none =>
      rw [Option.getD_none, forall_prop_of_true rfl, tidyName?]
      split
      · rename_i hempty
        exact iff_of_true rfl (.inr hempty)
      · rename_i hne
        exact ⟨.inl, fun h => h.resolve_right hne⟩
  | some name =>
      obtain ⟨hne, hstrip⟩ := Text.isTidy_iff.mp (h.interpreter name hinterpreter)
      rw [Option.getD_some, tidyName?, hstrip, if_neg hne]
      exact iff_of_true rfl nofun

/-! ### What a table comes to -/

/-- A version that is read: none is given, or one that counts as zero. -/
def IsVersion (table : Table) : Prop :=
  ∀ provided, Ordered.get? "config_version" table = some provided → provided.CountsAsZero

/-- What a table of settings comes to. -/
inductive Parses (source : Path) (table : Table) : Except Breakdown Settings → Prop
  /-- It is of another version. -/
  | version {provided : Setting}
      (hprovided : Ordered.get? "config_version" table = some provided)
      (hother : ¬ provided.CountsAsZero) (hshown : provided.payload.isWritable = true) :
      Parses source table (.error (.failure (.unsupportedVersion provided version)))
  /-- It is of another version, and there is a number in it that is too long to be shown. -/
  | unwritable {provided : Setting}
      (hprovided : Ordered.get? "config_version" table = some provided)
      (hother : ¬ provided.CountsAsZero) (hshown : provided.payload.isWritable = false) :
      Parses source table (.error (.conversion .unwritable))
  /-- Something in it is wrong. -/
  | invalid {violations : List Violation} (hversion : IsVersion table) :
      Parses source table (.error (.failure (.invalidSettingsFile source (.violations violations))))
  /-- It has settings in normal form, which are read back from the table that they are written
      out as. -/
  | normal {s : Settings} (hversion : IsVersion table) (hnormal : s.IsNormal source table)
      (hagain : ∀ standard, ∃ again, parse source (s.toTable standard) = .ok again ∧
        (s.SameAs standard again ↔
          (s.interpreter = none → Text.strip standard = standard ∨ Text.strip standard = ""))) :
      Parses source table (.ok s)

theorem parse_of_isVersion {source : Path} {table : Table} (h : IsVersion table) :
    parse source table = (read (some source) table).mapError fun vs =>
      .failure (.invalidSettingsFile source (.violations vs)) := by
  have hzero : ((Ordered.get? "config_version" table).getD version).isZero = true := by
    cases hprovided : Ordered.get? "config_version" table with
    | none => rfl
    | some provided => exact Setting.isZero_iff.mpr (h provided hprovided)
  rw [parse]
  exact if_pos hzero

theorem parse_of_other {source : Path} {table : Table} {provided : Setting}
    (hprovided : Ordered.get? "config_version" table = some provided)
    (hother : ¬ provided.CountsAsZero) :
    parse source table = if provided.payload.isWritable then
        .error (.failure (.unsupportedVersion provided version))
      else .error (.conversion .unwritable) := by
  have hzero : ¬ provided.isZero = true := fun h => hother (Setting.isZero_iff.mp h)
  rw [parse, hprovided, Option.getD_some]
  simp only [if_neg hzero]
  rw [Setting.asText, Payload.asText]
  split
  · rename_i hshown
    split at hshown
    · rename_i hwritable
      rw [if_pos hwritable]
    · cases hshown
  · rename_i hshown
    split at hshown
    · cases hshown
    · rename_i hwritable
      rw [if_neg hwritable, ← Except.error.inj hshown]

theorem parses_parse (source : Path) (table : Table) :
    Parses source table (parse source table) := by
  by_cases hversion : IsVersion table
  · rw [parse_of_isVersion hversion]
    cases hread : read (some source) table with
    | error violations => exact .invalid hversion
    | ok s =>
        have hnormal := (read_eq_ok_iff.mp hread).isNormal
        refine .normal hversion hnormal fun standard => ?_
        have hnone : Ordered.get? "config_version" (s.toTable standard) = none := rfl
        have hagain : IsVersion (s.toTable standard) := fun provided hprovided => by
          rw [hnone] at hprovided
          cases hprovided
        have hsame := (hnormal.sameAs_readBack_iff standard _).trans
          (hnormal.getD_tidyName?_iff standard)
        refine ⟨_, ?_, hsame⟩
        rw [parse_of_isVersion hagain, hnormal.read_toTable standard rfl, Except.mapError]
  · rw [IsVersion, not_forall] at hversion
    obtain ⟨provided, hversion⟩ := hversion
    obtain ⟨hprovided, hother⟩ := Classical.not_imp.mp hversion
    rw [parse_of_other hprovided hother]
    split
    · rename_i hshown
      exact .version hprovided hother hshown
    · rename_i hshown
      exact .unwritable hprovided hother (Bool.eq_false_iff.mpr hshown)

/-- A table of settings is of another version, has something wrong in it, or has settings in
    normal form that are read back from the table that they are written out as. It is refused
    for its version if and only if it gives one that does not count as zero and can be shown. -/
theorem parse_settles (source : Path) (table : Table) :
    Parses source table (parse source table) ∧
      ((∃ provided expected,
          parse source table = .error (.failure (.unsupportedVersion provided expected))) ↔
        ∃ provided, Ordered.get? "config_version" table = some provided ∧
          ¬ provided.CountsAsZero ∧ provided.payload.isWritable = true) := by
  have hparses := parses_parse source table
  refine ⟨hparses, ?_, ?_⟩
  · rintro ⟨provided, expected, hparse⟩
    rw [hparse] at hparses
    obtain ⟨hprovided, hother, hshown⟩ | _ | _ | _ := hparses
    exact ⟨provided, hprovided, hother, hshown⟩
  · rintro ⟨provided, hprovided, hother, hshown⟩
    rw [parse_of_other hprovided hother, if_pos hshown]
    exact ⟨provided, version, rfl⟩

/-- A version that is a whole number with too many digits is not shown. -/
theorem parse_of_long {table : Table} {n : Int}
    (hprovided : Ordered.get? "config_version" table = some (.int n))
    (hlong : Nat.pow 10 Number.digitLimit ≤ n.natAbs) (source : Path) :
    ¬ (Setting.int n).CountsAsZero ∧ parse source table = .error (.conversion .unwritable) := by
  have hother : ¬ (Setting.int n).CountsAsZero := by
    intro hzero
    have hn : n = 0 := eq_of_beq (Setting.isZero_iff.mpr hzero)
    have hpos : ∀ digits, 0 < Nat.pow 10 digits := fun _ => Nat.pow_pos (by decide)
    rw [hn] at hlong
    exact absurd (hpos _) (Nat.not_lt.mpr hlong)
  have hshown : (Setting.int n).payload.isWritable = false := by
    rw [Setting.payload, Payload.isWritable, decide_eq_false_iff_not, Nat.not_lt]
    exact hlong
  rw [parse_of_other hprovided hother, hshown]
  exact ⟨hother, rfl⟩

/-- A one and so many zeros. -/
def oneAndZeros (zeros : Nat) : Nat := Nat.pow 10 zeros

theorem pow_le_natAbs_oneAndZeros (zeros : Nat) :
    Nat.pow 10 zeros ≤ (oneAndZeros zeros : Int).natAbs :=
  (Int.natAbs_natCast (oneAndZeros zeros)).ge

/-- A version with too many digits is another version, and it is refused by no failure. -/
theorem parse_breaks_long :
    ¬ (Setting.int (oneAndZeros Number.digitLimit)).CountsAsZero ∧ ∀ source,
      parse source [("config_version", .int (oneAndZeros Number.digitLimit))] =
          .error (.conversion .unwritable) ∧
        ¬ ∃ failure, parse source [("config_version", .int (oneAndZeros Number.digitLimit))] =
          .error (.failure failure) := by
  have hprovided : ∀ n : Int,
      Ordered.get? "config_version" [("config_version", Setting.int n)] = some (.int n) :=
    fun _ => rfl
  have hparse := parse_of_long (hprovided _) (pow_le_natAbs_oneAndZeros Number.digitLimit)
  refine ⟨(hparse .here).1, fun source => ⟨(hparse source).2, fun ⟨failure, hfailure⟩ => ?_⟩⟩
  rw [(hparse source).2] at hfailure
  cases hfailure

end Settings

end TokenLint
