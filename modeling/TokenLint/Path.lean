import TokenLint.Text.Line

/-!
# Paths

A path is its anchor, which says where it starts, and the names of its steps. Doubled slashes and steps
that stay in place are not part of it, so two spellings of one path are equal. A step up is kept, since
what it means depends on the files.

## Main definitions

* `Path`: A path.
* `Path.ofString`: The path that a text spells.
* `Path.toString`: The spelling of a path.
* `Path.child`: A path and one more step.
* `Path.join`: A path followed by another.
* `Path.suffix`: The end of a path's name from its last point on.
-/

namespace TokenLint

/-- A path. -/
structure Path where
  /-- Where the path starts: nowhere in particular, at the root, or at the root named by two slashes. -/
  anchor : String
  /-- The names of its steps. -/
  steps : List String
deriving DecidableEq, Repr

namespace Path

/-- The path that stays in place. -/
def here : Path := ⟨"", []⟩

instance : Inhabited Path := ⟨here⟩

/-- The anchor that a text begins with: two slashes are an anchor of their own, three or more are one. -/
def anchorOf : List Char → String
  | '/' :: '/' :: '/' :: _ => "/"
  | '/' :: '/' :: _ => "//"
  | '/' :: _ => "/"
  | _ => ""

/-- The path that a text spells. -/
def ofString (s : String) : Path :=
  let pieces := (Text.splitOn '/' s.toList).map String.ofList
  ⟨anchorOf s.toList, pieces.filter fun piece => piece != "" && piece != "."⟩

/-- The spelling of a path. -/
def toString (p : Path) : String :=
  if p.anchor = "" ∧ p.steps = [] then "." else p.anchor ++ Text.joinWith "/" p.steps

instance : ToString Path := ⟨toString⟩

/-- Whether a path starts at the root. -/
def isAbsolute (p : Path) : Bool := p.anchor != ""

/-- A path with one more step. -/
def child (p : Path) (name : String) : Path :=
  { p with steps := p.steps ++ [name] }

/-- A path followed by another, which stands alone if it is absolute. -/
def join (p q : Path) : Path :=
  if q.isAbsolute then q else { p with steps := p.steps ++ q.steps }

/-- The last step of a path, or nothing. -/
def name (p : Path) : String := p.steps.getLast?.getD ""

/-- The end of a name from its last point on. A point at either end of the name does not count. -/
def suffixOf (name : List Char) : List Char :=
  let tail := (name.reverse.takeWhile (· != '.')).reverse
  let stem := name.length - (tail.length + 1)
  if tail.length < name.length ∧ 0 < stem ∧ tail ≠ [] then '.' :: tail else []

/-- The end of a path's name from its last point on, if there is one inside the name. -/
def suffix (p : Path) : String := String.ofList (suffixOf p.name.toList)

end Path

end TokenLint
