import TokenLint.Failure.Breakdown
import TokenLint.Settings.Parse
import TokenLint.Toml.Reader

/-!
# Loading settings

Settings are taken from a file that is named, or else from the first of some files in a directory that
exists and has settings in it. A file of this program's own may hold them as a whole or in a section; a
file that it shares with other programs only in the section.

## Main definitions

* `Settings.section?`: The section of a table that holds settings.
* `Settings.tableOf`: The table of settings in a file.
* `Settings.load`: The settings that apply.
-/

namespace TokenLint

namespace Settings

/-- The files that may hold settings, in the order in which they are looked for. -/
def fileNames : List String := ["lexcheck.toml", ".lexcheck.toml", "pyproject.toml"]

/-- The file that other programs use too. -/
def sharedFileName : String := "pyproject.toml"

/-- The section of a table that holds settings. -/
def section? (table : Table) : Option Table :=
  match Ordered.get? "tool" table with
  | some (.table tools) =>
    match Ordered.get? "lexcheck" tools with
    | some (.table t) => some t
    | _ => none
  | _ => none

/-- The table of settings in a document from a file, if it has any. -/
def settingsTable? (path : Path) (document : Table) : Option Table :=
  match section? document with
  | some t => some t
  | none => if path.name = sharedFileName then none else some document

/-- The document that the bytes of a file are. -/
def documentOf (path : Path) (bytes : List UInt8) : Except Breakdown Table := do
  let text ← (Utf8.decode bytes).mapError .encoding
  match Toml.read (Text.universalBreaks text) with
  | .ok table => return table
  | .error .malformed => throw (.failure (.invalidSettingsFile path .malformed))
  | .error (.tooLong digits) => throw (.conversion (.tooLong digits))
  | .error .tooDeep => throw .tooDeep

/-- The settings in a file, if it has any. -/
def ofFile? (tree : FileTree) (path : Path) : Except Breakdown (Option Settings) := do
  let bytes ← (tree.read path).mapError fun fault =>
    .failure (.unreadableSettings path (.text (fault.message path)))
  let document ← documentOf path bytes
  match settingsTable? path document with
  | none => return none
  | some table => some <$> parse path table

/-- The settings in the first file of a list that exists and has any, or else the standard ones. -/
def firstOf (tree : FileTree) : List Path → Except Breakdown Settings
  | [] => .ok standard
  | path :: paths => do
    if ← (tree.isFile path).mapError (.file path) then
      match ← ofFile? tree path with
      | some settings => return settings
      | none => firstOf tree paths
    else firstOf tree paths

/-- The settings that apply: those in a file that is named, or else in a directory. -/
def load (tree : FileTree) (named : Option Path) (directory : Path) : Except Breakdown Settings := do
  match named with
  | some path =>
    if ← (tree.isFile path).mapError (.file path) then firstOf tree [path]
    else throw (.failure (.unreadableSettings path (.text "no such file")))
  | none => firstOf tree (fileNames.map directory.child)

end Settings

end TokenLint
