import TokenLint.Proofs.Settings.Outcome

/-!
# The Search for Settings

Settings come from one file, and which one it is depends on the files in front
of it. A file that is not there is passed, and so is the shared file if it has
no section for this program. The first file that is not passed decides, for
better or worse: what is in the files behind it does not matter, even if it is
at fault itself.

`Passes` and `Decides` are about a single file and have every way in them that
a file can turn out. `decides_of_ofFile?` says that there are no others. A step
of the search is `firstOf_of_none` or `firstOf_of_some`, and `firstOf_decided`
is the search as a whole.

What is wrong with a file is reported as one of three failures that a run has
an exit code for. The things that get past this are those of `Settings.Breaks`.
The nearest of them is a file that is not UTF-8: it can be read, but not as
text, and only what cannot be read is taken care of at that place.

## Main definitions

* `Settings.HasTable`: A file with a table of settings.
* `Settings.Passes`: A path that the search goes on behind.
* `Settings.Decides`: What a file comes to at which the search stops.
* `Settings.Decided`: What a search comes to.

## Theorems

* `Settings.decides_of_ofFile?`: A file passes or decides.
* `Settings.firstOf_of_none`, `Settings.firstOf_of_some`: A step of the search.
* `Settings.firstOf_decided`: The first file that does not pass decides.
* `Settings.Decides.failure`: A file at fault is reported, or breaks.
* `Settings.load_settles`: What loading settings comes to.
* `Settings.load_breaks_latin`: A settings file that is not UTF-8.
-/

namespace TokenLint

namespace Settings

section Definitions

variable (tree : FileTree)

/-- A file that has a table of settings. -/
def HasTable (path : Path) (table : Table) : Prop :=
  ∃ bytes document, tree.read path = .ok bytes ∧ documentOf path bytes = .ok document ∧
    settingsTable? path document = some table

/-- A path that the search goes on behind: there is no file, or one without settings. -/
def Passes (path : Path) : Prop :=
  tree.isFile path = .ok false ∨ tree.isFile path = .ok true ∧
    ∃ bytes document, tree.read path = .ok bytes ∧ documentOf path bytes = .ok document ∧
      settingsTable? path document = none

/-- What a file comes to at which the search stops. -/
inductive Decides (path : Path) : Except Breakdown Settings → Prop
  /-- It has settings. -/
  | settings {table : Table} {found : Settings} (htable : HasTable tree path table)
      (h : parse path table = .ok found) : Decides path (.ok found)
  /-- It cannot be read. -/
  | unreadable {fault : FileFault} (h : tree.read path = .error fault) :
      Decides path (.error (.failure (.unreadableSettings path (.text (fault.message path)))))
  /-- It is not written as it should be. -/
  | malformed {bytes : List UInt8} {text : List Char} (hread : tree.read path = .ok bytes)
      (htext : Utf8.decode bytes = .ok text)
      (h : Toml.read (Text.universalBreaks text) = .error .malformed) :
      Decides path (.error (.failure (.invalidSettingsFile path .malformed)))
  /-- Its settings are of another version. -/
  | version {table : Table} {provided : Setting} (htable : HasTable tree path table)
      (hprovided : Ordered.get? "config_version" table = some provided)
      (h : provided.isZero = false) :
      Decides path (.error (.failure (.unsupportedVersion provided version)))
  /-- Its settings do not pass their checks. -/
  | invalid {table : Table} {vs : List Violation} (htable : HasTable tree path table)
      (h : read (some path) table = .error vs) :
      Decides path (.error (.failure (.invalidSettingsFile path (.violations vs))))
  /-- It gets past the checks. -/
  | breaks {b : Breakdown} (h : Breaks tree [path] b) : Decides path (.error b)

/-- What a search through some paths comes to. -/
inductive Decided (paths : List Path) : Except Breakdown Settings → Prop
  /-- No file has settings, and the standard ones apply. -/
  | standard (h : ∀ path ∈ paths, Passes tree path) : Decided paths (.ok standard)
  /-- A file decides, and all in front of it pass. -/
  | file {earlier later : List Path} {path : Path} {outcome : Except Breakdown Settings}
      (hpaths : paths = earlier ++ path :: later) (hearlier : ∀ q ∈ earlier, Passes tree q)
      (hfile : tree.isFile path ≠ .ok false) (h : Decides tree path outcome) : Decided paths outcome

end Definitions

variable {tree : FileTree} {path : Path}

/-- More paths have more that can break. -/
theorem Breaks.mono {paths paths' : List Path} {b : Breakdown} (h : Breaks tree paths b)
    (hsub : paths ⊆ paths') : Breaks tree paths' b := by
  cases h with
  | lookup hpath h => exact .lookup (hsub hpath) h
  | encoding hpath hread h => exact .encoding (hsub hpath) hread h
  | digits hpath hread htext h => exact .digits (hsub hpath) hread htext h
  | depth hpath hread htext h => exact .depth (hsub hpath) hread htext h
  | version hpath hread hdocument htable hprovided h =>
      exact .version (hsub hpath) hread hdocument htable hprovided h

/-- What is wrong with the bytes of a file decides. -/
theorem decides_of_documentOf {bytes : List UInt8} {b : Breakdown}
    (hread : tree.read path = .ok bytes) (h : documentOf path bytes = .error b) :
    Decides tree path (.error b) := by
  rcases error_of_bind h with hdecode | ⟨text, htext, hdocument⟩
  · rcases error_of_mapError hdecode with ⟨fault, hfault, rfl⟩
    exact .breaks (.encoding List.mem_cons_self hread hfault)
  · have htext := ok_of_mapError htext
    split at hdocument
    · cases hdocument
    · rename_i hmalformed
      cases hdocument
      exact .malformed hread htext hmalformed
    · rename_i hdigits
      cases hdocument
      exact .breaks (.digits List.mem_cons_self hread htext hdigits)
    · rename_i hdepth
      cases hdocument
      exact .breaks (.depth List.mem_cons_self hread htext hdepth)

/-- What a table of settings is read as decides. -/
theorem decides_of_parse {bytes : List UInt8} {document table : Table}
    (hread : tree.read path = .ok bytes) (hdocument : documentOf path bytes = .ok document)
    (htable : settingsTable? path document = some table) :
    Decides tree path (parse path table) := by
  have hhas : HasTable tree path table := ⟨bytes, document, hread, hdocument, htable⟩
  cases hparse : parse path table with
  | ok found => exact .settings hhas hparse
  | error b =>
      rw [parse] at hparse
      split at hparse
      · rcases error_of_mapError hparse with ⟨vs, hvs, rfl⟩
        exact .invalid hhas hvs
      · rename_i hother
        rw [Bool.not_eq_true] at hother
        cases hprovided : Ordered.get? "config_version" table with
        | none =>
            -- The version that is taken for granted is the one that is read.
            rw [hprovided] at hother
            cases hother
        | some provided =>
            rw [hprovided] at hother hparse
            split at hparse
            · cases hparse
              exact .version hhas hprovided hother
            · rename_i hfault
              cases hparse
              exact .breaks (.version List.mem_cons_self hread hdocument htable hprovided hfault)

/-- A file passes, or it decides. -/
theorem decides_of_ofFile? (tree : FileTree) (path : Path) :
    (ofFile? tree path = .ok none ∧ ∃ bytes document, tree.read path = .ok bytes ∧
      documentOf path bytes = .ok document ∧ settingsTable? path document = none) ∨
    ∃ outcome, ofFile? tree path = some <$> outcome ∧ Decides tree path outcome := by
  cases hread : tree.read path with
  | error fault =>
      refine .inr ⟨_, ?_, .unreadable hread⟩
      rw [ofFile?, hread]
      rfl
  | ok bytes =>
      cases hdocument : documentOf path bytes with
      | error b =>
          refine .inr ⟨_, ?_, decides_of_documentOf hread hdocument⟩
          rw [ofFile?, hread]
          change (documentOf path bytes >>= _) = _
          rw [hdocument]
          rfl
      | ok document =>
          cases htable : settingsTable? path document with
          | none =>
              refine .inl ⟨?_, bytes, document, rfl, hdocument, htable⟩
              rw [ofFile?, hread]
              change (documentOf path bytes >>= _) = _
              simp only [hdocument, bind, Except.bind, htable]
              rfl
          | some table =>
              refine .inr ⟨_, ?_, decides_of_parse hread hdocument htable⟩
              rw [ofFile?, hread]
              change (documentOf path bytes >>= _) = _
              simp only [hdocument, bind, Except.bind, htable]

namespace Decided

variable {rest : List Path} {outcome : Except Breakdown Settings}

/-- What is found behind a path that passes is what the search comes to. -/
theorem cons (hpasses : Passes tree path) (h : Decided tree rest outcome) :
    Decided tree (path :: rest) outcome := by
  cases h with
  | standard h => exact .standard (List.forall_mem_cons.mpr ⟨hpasses, h⟩)
  | @file earlier later q _ hpaths hearlier hfile h =>
      have hsplit : path :: rest = (path :: earlier) ++ q :: later := by
        rw [hpaths, List.cons_append]
      exact .file hsplit (List.forall_mem_cons.mpr ⟨hpasses, hearlier⟩) hfile h

/-- A file in front of all others decides if it does not pass. -/
theorem head (hfile : tree.isFile path ≠ .ok false) (h : Decides tree path outcome) :
    Decided tree (path :: rest) outcome :=
  .file (List.nil_append _).symm (fun _ hnil => absurd hnil List.not_mem_nil) hfile h

end Decided

section Steps

variable {rest : List Path} (hfile : tree.isFile path = .ok true)

include hfile

/-- A file without settings is passed. -/
theorem firstOf_of_none (h : ofFile? tree path = .ok none) :
    firstOf tree (path :: rest) = firstOf tree rest := by
  rw [firstOf, hfile]
  change (ofFile? tree path >>= _) = _
  rw [h]
  rfl

/-- A file that decides stops the search. -/
theorem firstOf_of_some {outcome : Except Breakdown Settings}
    (h : ofFile? tree path = some <$> outcome) : firstOf tree (path :: rest) = outcome := by
  rw [firstOf, hfile]
  change (ofFile? tree path >>= _) = _
  rw [h]
  cases outcome <;> rfl

end Steps

/-- The first file that does not pass decides. -/
theorem firstOf_decided (tree : FileTree) (paths : List Path) :
    Decided tree paths (firstOf tree paths) := by
  induction paths with
  | nil => exact .standard fun _ h => absurd h List.not_mem_nil
  | cons path rest ih =>
      cases hfile : tree.isFile path with
      | error fault =>
          have hlookup := error_of_map hfile
          cases FileTree.eq_tooLong_of_lookup hlookup
          refine .head (by rw [hfile]; exact fun heq => nomatch heq) ?_
          rw [firstOf, hfile]
          exact .breaks (.lookup List.mem_cons_self hlookup)
      | ok found =>
          cases found with
          | false =>
              have hnext : firstOf tree (path :: rest) = firstOf tree rest := by
                rw [firstOf, hfile]
                rfl
              rw [hnext]
              exact ih.cons (.inl hfile)
          | true =>
              rcases decides_of_ofFile? tree path with ⟨hnone, hskip⟩ | ⟨outcome, hsome, hdecides⟩
              · rw [firstOf_of_none hfile hnone]
                exact ih.cons (.inr ⟨hfile, hskip⟩)
              · rw [firstOf_of_some hfile hsome]
                exact .head (by rw [hfile]; exact fun heq => Bool.noConfusion (Except.ok.inj heq))
                  hdecides

/-- The failures that a settings file at fault is reported by. -/
def IsReported (f : Failure) : Prop :=
  f.kind = .unreadableSettings ∨ f.kind = .invalidSettingsFile ∨ f.kind = .unsupportedVersion

/-- A file at fault is reported, or it gets past the checks. -/
theorem Decides.failure {b : Breakdown} (h : Decides tree path (.error b)) :
    (∃ f, b = .failure f ∧ IsReported f) ∨ Breaks tree [path] b := by
  cases h with
  | unreadable h => exact .inl ⟨_, rfl, .inl rfl⟩
  | malformed hread htext h => exact .inl ⟨_, rfl, .inr (.inl rfl)⟩
  | version htable hprovided h => exact .inl ⟨_, rfl, .inr (.inr rfl)⟩
  | invalid htable h => exact .inl ⟨_, rfl, .inr (.inl rfl)⟩
  | breaks h => exact .inr h

theorem Decided.failure {paths : List Path} {b : Breakdown} (h : Decided tree paths (.error b)) :
    (∃ f, b = .failure f ∧ IsReported f) ∨ Breaks tree paths b := by
  cases h with
  | file hpaths hearlier hfile h =>
      refine h.failure.imp_right fun hbreaks => hbreaks.mono fun q hq => ?_
      rw [List.mem_singleton.mp hq, hpaths]
      exact List.mem_append_right _ List.mem_cons_self

/-- What loading settings comes to, for all files and whatever is in them. A file that is
    named has to be there. Otherwise the first file that does not pass decides, and if all
    of them pass the standard settings apply. So loading comes to settings, or to one of
    three failures that a run reports, unless a file gets past the checks. -/
theorem load_settles (tree : FileTree) (named : Option Path) (directory : Path) :
    (∀ b, load tree named directory = .error b →
      (∃ f, b = .failure f ∧ IsReported f ∧ f.isConfiguration = true) ∨
        Breaks tree (candidates named directory) b) ∧
    ((∃ path, named = some path ∧ tree.isFile path = .ok false ∧ load tree named directory =
        .error (.failure (.unreadableSettings path (.text "no such file")))) ∨
      Decided tree (candidates named directory) (load tree named directory)) := by
  have hsettled : (∃ path, named = some path ∧ tree.isFile path = .ok false ∧
      load tree named directory =
        .error (.failure (.unreadableSettings path (.text "no such file")))) ∨
      Decided tree (candidates named directory) (load tree named directory) := by
    cases named with
    | none => exact .inr (firstOf_decided tree _)
    | some path =>
        cases hfile : tree.isFile path with
        | error fault =>
            have hlookup := error_of_map hfile
            cases FileTree.eq_tooLong_of_lookup hlookup
            refine .inr (.head (by rw [hfile]; exact fun heq => nomatch heq) ?_)
            rw [load, hfile]
            exact .breaks (.lookup List.mem_cons_self hlookup)
        | ok found =>
            cases found with
            | false =>
                refine .inl ⟨path, rfl, hfile, ?_⟩
                rw [load, hfile]
                rfl
            | true =>
                have hload : load tree (some path) directory = firstOf tree [path] := by
                  rw [load, hfile]
                  rfl
                rw [hload]
                exact .inr (firstOf_decided tree [path])
  refine ⟨fun b hb => ?_, hsettled⟩
  have hkind : ∀ f, IsReported f → f.isConfiguration = true := by
    intro f hf
    rw [Failure.isConfiguration]
    rcases hf with h | h | h <;> rw [h] <;> rfl
  rcases hsettled with ⟨path, _, _, hmissing⟩ | hdecided
  · rw [hb] at hmissing
    exact .inl ⟨_, Except.error.inj hmissing, .inl rfl, rfl⟩
  · rw [hb] at hdecided
    rcases hdecided.failure with ⟨f, hf, hreported⟩ | hbreaks
    · exact .inl ⟨f, hf, hreported, hkind f hreported⟩
    · exact .inr hbreaks

/-- A directory with a settings file of one byte that begins no character. -/
def latinTree : FileTree :=
  ⟨⟨"/", []⟩, .directory [("lexcheck.toml", .file [0xFF])]⟩

/-- A settings file that is not UTF-8 leads to no settings and to no failure that is
    reported. -/
theorem load_breaks_latin :
    load latinTree none .here = .error (.encoding ⟨0, 1, 0xFF, .invalidStart⟩) ∧
      ¬ ∃ f, load latinTree none .here = .error (.failure f) := by
  have hload : load latinTree none .here = .error (.encoding ⟨0, 1, 0xFF, .invalidStart⟩) := rfl
  refine ⟨hload, ?_⟩
  rintro ⟨f, hf⟩
  rw [hload] at hf
  cases hf

end Settings

end TokenLint
