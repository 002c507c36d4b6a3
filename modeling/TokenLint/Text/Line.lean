/-!
# Lines

A text is cut into lines at its line feeds. A line feed ends a line and belongs to none, so a text with
`n` of them has `n + 1` lines, the last of which may be empty. A carriage return is an ordinary
character here; those who care for one look for it at the end of a line.

## Main definitions

* `splitOn`: The pieces of a list between the elements equal to a separator.
* `lines`: The lines of a text.
* `breakCount`: The number of its line feeds.
* `lastLine`: What follows its last line feed.
* `unifyReturns`: The text with each lone carriage return read as a line feed.
-/

namespace TokenLint

namespace Text

/-- The pieces of a list between the elements equal to `sep`. There is always at least one. -/
def splitOn {α : Type} [DecidableEq α] (sep : α) : List α → List (List α)
  | [] => [[]]
  | x :: xs =>
    if x = sep then [] :: splitOn sep xs
    else match splitOn sep xs with
      | [] => [[x]]
      | piece :: pieces => (x :: piece) :: pieces

/-- The lines of a text, without their line feeds. -/
def lines (cs : List Char) : List (List Char) :=
  splitOn '\n' cs

/-- The number of line feeds in a text. -/
def breakCount (cs : List Char) : Nat :=
  cs.count '\n'

/-- The text after the last line feed, or all of it when there is none. -/
def lastLine (cs : List Char) : List Char :=
  (cs.reverse.takeWhile (· != '\n')).reverse

/-- The text with each carriage return that no line feed follows read as a line feed. -/
def unifyReturns : List Char → List Char
  | [] => []
  | '\r' :: '\n' :: cs => '\r' :: '\n' :: unifyReturns cs
  | c :: cs => (if c = '\r' then '\n' else c) :: unifyReturns cs

/-- The text with every line ending written as a single line feed. -/
def universalBreaks : List Char → List Char
  | [] => []
  | '\r' :: '\n' :: cs => '\n' :: universalBreaks cs
  | c :: cs => (if c = '\r' then '\n' else c) :: universalBreaks cs

/-- The text before the first element equal to `sep`, and what follows that element if there is one. -/
def cutAt (sep : Char) (cs : List Char) : List Char × Option (List Char) :=
  match cs.dropWhile (· != sep) with
  | [] => (cs.takeWhile (· != sep), none)
  | _ :: rest => (cs.takeWhile (· != sep), some rest)

/-- A text without one final carriage return. -/
def dropReturn (cs : List Char) : List Char :=
  if cs.getLast? = some '\r' then cs.dropLast else cs

/-- Several texts with a separator between each two. -/
def joinWith (sep : String) (parts : List String) : String :=
  sep.intercalate parts

end Text

end TokenLint
