import TokenLint.Discovery
import TokenLint.Settings.Value

/-!
# Settings

What a run is set to: the interpreter of the syntax pre-check and whether it is used at all, the rules
and their options, the files that are picked up and those that are passed over, how many files are
looked at at a time, and which findings make a run fail.

## Main definitions

* `Settings`: The settings of a run.
* `Settings.standard`: The settings where none are given.
* `tidyList`: A list of names as the settings keep it.
-/

namespace TokenLint

/-- The settings of a run. -/
structure Settings where
  /-- The interpreter of the syntax pre-check, if it is not the standard one. -/
  interpreter : Option String
  /-- Whether files go through the syntax pre-check. -/
  checksSyntax : Bool
  /-- The rules in the order in which they run, or none for all rules. -/
  rules : List String
  /-- The options of rules by name. -/
  ruleOptions : List (String × Table)
  /-- The endings of the file names that are picked up. -/
  extensions : List String
  /-- The patterns of the files that are passed over. -/
  exclude : List String
  /-- The number of files that are looked at at a time. -/
  workers : Int
  /-- The findings that make a run fail. -/
  failOn : FailPolicy
  /-- The file that the settings are from, if there is one. -/
  source : Option Path
deriving Repr

namespace Settings

/-- The version of settings that is read. -/
def version : Setting := .int 0

/-- The patterns that are passed over unless the settings say otherwise. -/
def defaultExclude : List String := [".git", ".hg", ".nox", ".tox", ".venv", "__pycache__"]

/-- The settings where none are given. -/
def standard : Settings where
  interpreter := none
  checksSyntax := true
  rules := []
  ruleOptions := []
  extensions := defaultExtensions
  exclude := defaultExclude
  workers := 1
  failOn := .errors
  source := none

/-- Names without surrounding blanks, each once, and without those that were blank. -/
def tidyList (names : List String) : List String :=
  distinct ((names.map Text.strip).filter (· ≠ ""))

/-- Tables in the order of their names as they were written, by their names without surrounding blanks. -/
def tidyTables (tables : List (String × Table)) : List (String × Table) :=
  Ordered.ofPairs ((Ordered.sortByKey tables).map fun (name, table) => (Text.strip name, table))

/-- The name of an interpreter without surrounding blanks, unless it was blank. -/
def tidyName? (name : String) : Option String :=
  if Text.strip name = "" then none else some (Text.strip name)

end Settings

end TokenLint
