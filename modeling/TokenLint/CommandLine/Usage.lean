import TokenLint.CommandLine.Option

/-!
# Usage and help

How to call the program, in short and at length, laid out for a terminal of 80 columns with a margin of
two. What does not fit a line goes on the next one: options as a whole in the usage, words in the help.
A word may be broken after a hyphen.

## Main definitions

* `CommandLine.usage`: The usage.
* `CommandLine.help`: The help.
-/

namespace TokenLint

namespace CommandLine

/-- The number of columns that lines may take. -/
def lineWidth : Nat := 78

/-- The column at which explanations start. -/
def helpColumn : Nat := 24

/-- So many blanks. -/
def blanks (n : Nat) : String := String.ofList (List.replicate n ' ')

/-- Pieces put on lines that start at a column, with a blank between two of a line. The first line has
some room taken already. -/
def fillLines (limit start : Nat) (line : List String) (taken : Nat) : List String → List (List String)
  | [] => if line.isEmpty then [] else [line]
  | piece :: pieces =>
    if limit < taken + 1 + piece.length ∧ !line.isEmpty then
      line :: fillLines limit start [piece] (start - 1 + piece.length + 1) pieces
    else fillLines limit start (line ++ [piece]) (taken + piece.length + 1) pieces

/-- The mark in front of the usage. -/
def usageMark : String := "usage: "

/-- The usage. -/
def usage : String :=
  let start := usageMark.length + programName.length + 1
  let options := fillLines lineWidth start [] (usageMark.length - 1)
    (programName :: OptionSpec.all.map (·.brief))
  let path := fillLines lineWidth start [] (start - 1) [s!"[{pathName}]"]
  let lines := (options ++ path).map (Text.joinWith " ")
  usageMark ++ Text.joinWith ("\n" ++ blanks start) lines ++ "\n"

/-- The pieces that a word can be broken into: after a hyphen between two letters. -/
def breakWord (word : List Char) : List (List Char) :=
  match word with
  | a :: '-' :: b :: rest =>
    if a.isAlpha ∧ b.isAlpha then [a, '-'] :: breakWord (b :: rest)
    else match breakWord ('-' :: b :: rest) with
      | piece :: pieces => (a :: piece) :: pieces
      | [] => [[a]]
  | a :: rest =>
    match breakWord rest with
    | piece :: pieces => (a :: piece) :: pieces
    | [] => [[a]]
  | [] => []

/-- The pieces of a text: each with whether a blank goes in front of it. -/
def textPieces (text : String) : List (Bool × List Char) :=
  (Text.splitOn ' ' text.toList).flatMap fun word =>
    (breakWord word).mapIdx fun n piece => (n = 0, piece)

/-- Pieces of a text put on lines of a width. -/
def wrapPieces (width : Nat) (line : List Char) : List (Bool × List Char) → List (List Char)
  | [] => if line.isEmpty then [] else [line]
  | (blank, piece) :: pieces =>
    let longer := if line.isEmpty then piece else line ++ (if blank then [' '] else []) ++ piece
    if width < longer.length ∧ !line.isEmpty then line :: wrapPieces width piece pieces
    else wrapPieces width longer pieces

/-- A text on lines of a width. -/
def wrap (width : Nat) (text : String) : List String :=
  (wrapPieces width [] (textPieces text)).map String.ofList

/-- An entry of the help: how something is given, and what it is for. -/
def entryLines (invocation explanation : String) : List String :=
  let lead := "  " ++ invocation
  let lines := wrap (lineWidth - helpColumn) explanation
  if lead.length + 2 ≤ helpColumn then
    match lines with
    | first :: rest =>
      (lead ++ blanks (helpColumn - lead.length) ++ first) :: rest.map (blanks helpColumn ++ ·)
    | [] => [lead]
  else lead :: lines.map (blanks helpColumn ++ ·)

/-- The help. -/
def help : String :=
  let options := OptionSpec.all.flatMap fun o => entryLines o.invocation o.explanation
  let lines := ["", description, "", "positional arguments:"] ++ entryLines pathName pathPurpose ++
    ["", "options:"] ++ options
  usage ++ Text.joinWith "\n" lines ++ "\n"

end CommandLine

end TokenLint
