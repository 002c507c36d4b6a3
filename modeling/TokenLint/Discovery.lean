import TokenLint.Failure.Breakdown
import TokenLint.Glob
import TokenLint.Text.Blank
import TokenLint.Text.Lower

/-!
# Discovery

The files to check under a root. A file given as the root is taken whatever its name. A directory is
walked: its own files come first in the order of their names, then the files of its directories, again
in the order of their names. A file is taken when its suffix is a wanted one and no exclusion stands for
its path from the root or for any name on the way; an excluded directory is not entered.

## Main definitions

* `Discovery.isExcluded`: Whether exclusions stand for a path from the root.
* `Discovery.normalExtension`: An extension in the form that suffixes are compared in.
* `Discovery.walk`: The paths from the root of the files that are not excluded.
* `discover`: The files to check.
-/

namespace TokenLint

namespace Discovery

/-- Whether one of the patterns stands for a path from the root, or for one of its steps. -/
def isExcluded (patterns : List String) (steps : List String) : Bool :=
  patterns.any fun pattern =>
    Glob.matchesText pattern (Text.joinWith "/" steps) || steps.any (Glob.matchesText pattern)

/-- An extension in lower case, with its point. -/
def normalExtension (extension : String) : String :=
  let value := Text.lower (Text.strip extension)
  if value.startsWith "." then value else "." ++ value

/-- The names of the files among the entries of a directory. -/
def fileNames (entries : List (String × Node)) : List String :=
  entries.filterMap fun
    | (name, .file _) => some name
    | _ => none

mutual

/-- The paths of the files in a node that stands at `place`, in walking order. The test `skip` says which
paths are left out, and with a directory all below it. -/
def walk (skip : List String → Bool) (place : List String) : Node → List (List String)
  | .file _ => []
  | .directory entries =>
    -- Own files first, then the directories; both by name, whatever order the entries are in.
    let own := (fileNames entries).mergeSort fun a b => !(decide (b < a))
    let kept := (own.map fun name => place ++ [name]).filter fun steps => !skip steps
    kept ++ (Ordered.sortByKey (walkEntries skip place entries)).flatMap (·.2)

/-- For each entry that is not left out, the paths of the files in it. -/
def walkEntries (skip : List String → Bool) (place : List String) :
    List (String × Node) → List (String × List (List String))
  | [] => []
  | (name, node) :: rest =>
    if skip (place ++ [name]) then walkEntries skip place rest
    else (name, walk skip (place ++ [name]) node) :: walkEntries skip place rest

end

end Discovery

/-- The extensions that are looked for when none are asked for. -/
def defaultExtensions : List String := [".py"]

/-- The files to check under a root. The root has to exist. -/
def discover (tree : FileTree) (root : Path) (extensions exclude : List String) :
    Except Breakdown (List Path) := do
  match ← (tree.lookup root).mapError (.file root) with
  | none => throw (.failure (.pathNotFound root))
  | some (.file _) => return [root]
  | some node =>
    let wanted := extensions.map Discovery.normalExtension
    let paths := (Discovery.walk (Discovery.isExcluded exclude) [] node).map fun steps =>
      { root with steps := root.steps ++ steps : Path }
    return distinct (paths.filter fun path => wanted.contains (Text.lower path.suffix))

end TokenLint
