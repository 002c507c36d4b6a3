import TokenLint.Text.Digit

/-!
# Signs of a shell script

A script is a row of signs: words, operators, redirections and line ends. A word is made of parts, since
quotes may begin and end inside it and a dollar sign or a backquote stands for something that is only known
when the script runs. What such a part has inside is kept as text, to be read when it is needed.

## Main definitions

* `Part`: A part of a word.
* `Sign`: A sign.
* `partsOf`: The parts of a word at the start of a text.
* `signsOf`: The signs of a script, each with the number of its line.
-/

namespace TokenLint

namespace Shell

/-- What becomes of the value of a parameter. -/
inductive ParameterUse where
  /-- It is taken as it is. -/
  | plain
  /-- Its length is taken. -/
  | length
  /-- Something else depends on whether it is set, and not empty if `strict` is set. The sign says what. -/
  | ifUnset (sign : Char) (strict : Bool) (word : List Char)
  /-- What matches a pattern at its start, or at its end, is taken away, as little or as much as can be. -/
  | trimmed (atEnd longest : Bool) (pattern : List Char)
deriving DecidableEq, Repr

/-- A part of a word. A quoted part is not split, and its characters stand for themselves. -/
inductive Part where
  /-- Text as it is. -/
  | text (quoted : Bool) (cs : List Char)
  /-- The value of a parameter. -/
  | parameter (quoted : Bool) (name : String) (use : ParameterUse)
  /-- The output of a script. -/
  | output (quoted : Bool) (script : List Char)
  /-- The value of an arithmetic expression. -/
  | sum (quoted : Bool) (expression : List Char)
deriving DecidableEq, Repr

/-- A word. -/
abbrev ShellWord := List Part

/-- Where a redirection leads. -/
inductive Direction where
  /-- Input comes from a file. -/
  | input
  /-- Output goes to a file, which is emptied. -/
  | output
  /-- Output goes to the end of a file. -/
  | append
  /-- What another number stands for is taken over. -/
  | duplicate
  /-- Input is a text in the script. -/
  | document
deriving DecidableEq, Repr

/-- A sign of a script. -/
inductive Sign where
  /-- A word. -/
  | word (parts : ShellWord)
  /-- An operator. -/
  | operator (s : String)
  /-- A redirection of a number, of which the target is the next word. -/
  | redirect (number : Nat) (direction : Direction)
  /-- The end of a line. -/
  | lineEnd
  /-- Something that is no sign, with the complaint about it. -/
  | broken (complaint : String)
deriving DecidableEq, Repr

/-- The complaint about braces behind a dollar sign that are none of a parameter. -/
def badSubstitution : String := "Bad substitution"

/-- The complaint about a quote that nothing closes. -/
def openQuote : String := "Unterminated quoted string"

/-- The text up to a closing character and what follows that, where quotes and brackets inside are closed
by their own. -/
def upTo (opening closing : Char) : (fuel depth : Nat) → List Char → Option (List Char × List Char)
  | 0, _, _ => none
  | _, _, [] => none
  | fuel + 1, depth, c :: cs =>
    let skip (inside rest : List Char) (depth : Nat) :=
      (upTo opening closing fuel depth rest).map fun (text, rest) => (inside ++ text, rest)
    if c = closing ∧ depth = 0 then some ([], cs)
    else if c = closing then skip [c] cs (depth - 1)
    else if c = opening then skip [c] cs (depth + 1)
    else if c = '\\' then skip (c :: cs.take 1) (cs.drop 1) depth
    else if c = '\'' ∨ c = '"' then
      let quoted := cs.takeWhile (· != c)
      let rest := cs.drop quoted.length
      skip (c :: quoted ++ rest.take 1) (rest.drop 1) depth
    else skip [c] cs depth

/-- Whether a character may begin a name. -/
def startsName (c : Char) : Bool := c.isAlpha || c == '_'

/-- Whether a character may go on with a name. -/
def continuesName (c : Char) : Bool := c.isAlphanum || c == '_'

/-- The name at the start of a text: a parameter's number or sign, or a word of letters. -/
def nameAt (cs : List Char) : List Char :=
  match cs with
  | c :: _ =>
    if startsName c then cs.takeWhile continuesName
    else if c.isDigit || "?#$!@*-".toList.contains c then [c]
    else []
  | [] => []

/-- The part that braces behind a dollar sign make. -/
def braced (quoted : Bool) (inside : List Char) : Option Part :=
  let used (name : List Char) (use : ParameterUse) : Part :=
    .parameter quoted (String.ofList name) use
  match inside with
  | '#' :: c :: cs => if nameAt (c :: cs) = c :: cs then some (used (c :: cs) .length) else none
  | _ =>
    let name := if inside.all Char.isDigit then inside else nameAt inside
    match inside.drop name.length with
    | [] => if name.isEmpty then none else some (used name .plain)
    | '%' :: '%' :: pattern => some (used name (.trimmed true true pattern))
    | '%' :: pattern => some (used name (.trimmed true false pattern))
    | '#' :: '#' :: pattern => some (used name (.trimmed false true pattern))
    | '#' :: pattern => some (used name (.trimmed false false pattern))
    | ':' :: sign :: word =>
      if "-=?+".toList.contains sign then some (used name (.ifUnset sign true word)) else none
    | sign :: word =>
      if "-=?+".toList.contains sign then some (used name (.ifUnset sign false word)) else none

/-- The part at a dollar sign, given what follows the sign, and what follows the part. -/
def dollar (quoted : Bool) (cs : List Char) : Except String (Part × List Char) :=
  match cs with
  | '(' :: rest =>
    match upTo '(' ')' (rest.length + 1) 0 rest with
    | none =>
      let double := rest.head? = some '('
      .error (if double then "Missing '))'" else "end of file unexpected (expecting \")\")")
    | some (inside, after) =>
      -- Two brackets around an expression are taken for one, with another pair inside.
      match inside with
      | '(' :: more =>
        if more.getLast? = some ')' then .ok (.sum quoted more.dropLast, after)
        else .ok (.output quoted inside, after)
      | _ => .ok (.output quoted inside, after)
  | '\x7b' :: rest =>
    match upTo '\x7b' '\x7d' (rest.length + 1) 0 rest with
    | none => .error "Missing '\x7d'"
    | some (inside, after) =>
      match braced quoted inside with
      | some part => .ok (part, after)
      | none => .error badSubstitution
  | _ =>
    let name := nameAt cs
    if name.isEmpty then .ok (.text quoted ['$'], cs)
    else .ok (.parameter quoted (String.ofList name) .plain, cs.drop name.length)

/-- The script between backquotes, and what follows. A backslash before some characters is taken away. -/
def backquoted : List Char → Option (List Char × List Char)
  | [] => none
  | '\x60' :: cs => some ([], cs)
  | '\\' :: c :: cs =>
    let kept := if c = '\x60' ∨ c = '\\' ∨ c = '$' then [c] else ['\\', c]
    (backquoted cs).map fun (text, rest) => (kept ++ text, rest)
  | c :: cs => (backquoted cs).map fun (text, rest) => (c :: text, rest)

/-- The part at a dollar sign or a backquote, and what follows. -/
def special (quoted : Bool) (c : Char) (cs : List Char) : Except String (Part × List Char) :=
  if c = '$' then dollar quoted cs
  else match backquoted cs with
    | some (script, rest) => .ok (.output quoted script, rest)
    | none => .error "EOF in backquote substitution"

/-- The parts up to a double quote, or up to the end if there is none to close, and what follows. -/
def doubleQuoted (closed : Bool) : (fuel : Nat) → List Char → Except String (ShellWord × List Char)
  | 0, _ => .error openQuote
  | _, [] => if closed then .error openQuote else .ok ([], [])
  | fuel + 1, c :: cs => do
    let go (part : List Part) (rest : List Char) := do
      let (parts, rest) ← doubleQuoted closed fuel rest
      return (part ++ parts, rest)
    if c = '"' ∧ closed then return ([], cs)
    else if c = '$' ∨ c = '\x60' then
      let (part, rest) ← special true c cs
      go [part] rest
    else match c, cs with
      | '\\', '\n' :: rest => go [] rest
      | '\\', d :: rest =>
        go [.text true (if d = '"' ∨ d = '\\' ∨ d = '$' ∨ d = '\x60' then [d] else ['\\', d])] rest
      | _, _ => go [.text true [c]] cs

/-- Whether a character ends a word. -/
def endsWord (c : Char) : Bool := " \t\n;&|<>()".toList.contains c

/-- The parts of a word at the start of a text, and what follows the word. Where `whole` is set, blanks and
operators are part of it. -/
def partsFrom (whole : Bool) : (fuel : Nat) → List Char → Except String (ShellWord × List Char)
  | 0, cs => .ok ([], cs)
  | _, [] => .ok ([], [])
  | fuel + 1, c :: cs => do
    let go (part : List Part) (rest : List Char) := do
      let (parts, rest) ← partsFrom whole fuel rest
      return (part ++ parts, rest)
    if c = '$' ∨ c = '\x60' then
      let (part, rest) ← special false c cs
      go [part] rest
    else match c, cs with
      | '\'', _ =>
        let inside := cs.takeWhile (· != '\'')
        if inside.length = cs.length then throw openQuote
        go [.text true inside] (cs.drop (inside.length + 1))
      | '"', _ =>
        let (inside, rest) ← doubleQuoted true (cs.length + 1) cs
        go (.text true [] :: inside) rest
      | '\\', '\n' :: rest => go [] rest
      | '\\', d :: rest => go [.text true [d]] rest
      | _, _ => if endsWord c && !whole then return ([], c :: cs) else go [.text false [c]] cs

/-- Parts with adjacent texts of one kind made one. -/
def joined : ShellWord → ShellWord
  | .text q cs :: rest =>
    match joined rest with
    | .text r ds :: more => if q = r then .text q (cs ++ ds) :: more else .text q cs :: .text r ds :: more
    | more => .text q cs :: more
  | part :: rest => part :: joined rest
  | [] => []

/-- The parts of a word at the start of a text, and what follows the word. -/
def partsOf (cs : List Char) : Except String (ShellWord × List Char) :=
  (partsFrom false (cs.length + 1) cs).map fun (parts, rest) => (joined parts, rest)

/-- The parts of a text that is one word. -/
def wholeParts (cs : List Char) : Except String ShellWord :=
  (partsFrom true (cs.length + 1) cs).map fun (parts, _) => joined parts

/-- The operators, longer ones first. -/
def operators : List String := ["&&", "||", ";;", ";", "&", "|", "(", ")"]

/-- The signs of redirections and what they mean, longer ones first. -/
def directions : List (String × Direction) := [
  (">>", .append), (">&", .duplicate), ("<&", .duplicate), (">|", .output), (">", .output), ("<", .input)]

/-- The lines of a document up to the one that is its mark, and what follows that. -/
def documentLines (mark : List Char) (tabs : Bool) :
    (fuel : Nat) → List Char → List Char × List Char
  | 0, cs => ([], cs)
  | _, [] => ([], [])
  | fuel + 1, cs =>
    let line := cs.takeWhile (· != '\n')
    let rest := cs.drop (line.length + 1)
    let shown := if tabs then line.dropWhile (· == '\t') else line
    if shown = mark then ([], rest)
    else
      let (body, after) := documentLines mark tabs fuel rest
      (shown ++ (if line.length < cs.length then ['\n'] else []) ++ body, after)

/-- The text of the parts of a word that are text, and whether one of them is quoted. -/
def markOf (word : ShellWord) : List Char × Bool :=
  (word.flatMap fun | .text _ cs => cs | _ => [],
    word.any fun | .text quoted _ => quoted | _ => false)

/-- A document whose mark is at the start of a text: its parts, and the text with the document taken out
of the lines that follow. -/
def documentOf (tabs : Bool) (cs : List Char) : Except String (ShellWord × List Char) := do
  let (word, rest) ← partsOf cs
  let (mark, literal) := markOf word
  let line := rest.takeWhile (· != '\n')
  let after := rest.drop (line.length + 1)
  let (body, after) := documentLines mark tabs (after.length + 1) after
  let parts ← if literal then .ok [.text true body]
    else (doubleQuoted false (body.length + 1) body).map (·.1)
  return (.text true [] :: parts, line ++ '\n' :: after)

/-- The first of some texts that a list of characters starts with. -/
def startOf {α : Type} (choices : List (String × α)) (cs : List Char) : Option (String × α) :=
  choices.find? fun (s, _) => s.toList.isPrefixOf cs

/-- The signs at the start of a text, with what follows them. -/
def signAt (cs : List Char) : Except String (List Sign × List Char) :=
  let digits := cs.takeWhile Char.isDigit
  let body := cs.drop digits.length
  let number (standard : Nat) : Nat :=
    if digits.isEmpty then standard else Text.ofDigits 10 (digits.filterMap Text.asciiDigit?)
  match body with
  | '<' :: '<' :: rest => do
    let tabs := rest.head? = some '-'
    let rest := (if tabs then rest.drop 1 else rest).dropWhile fun c => c == ' ' || c == '\t'
    if (rest.head?.map endsWord).getD true then return ([.redirect (number 0) .document], rest)
    let (document, rest) ← documentOf tabs rest
    return ([.redirect (number 0) .document, .word document], rest)
  | _ =>
    match startOf directions body with
    | some (mark, direction) =>
      let standard := if mark.startsWith "<" then 0 else 1
      .ok ([.redirect (number standard) direction], body.drop mark.length)
    | none =>
      match startOf (operators.map (·, ())) cs with
      | some (operator, _) => .ok ([.operator operator], cs.drop operator.length)
      | none => (partsOf cs).map fun (parts, rest) => ([.word parts], rest)

/-- The signs of a script from a line on. Nothing follows what is no sign. -/
def signsFrom : (fuel line : Nat) → List Char → List (Sign × Nat)
  | 0, _, _ => []
  | _, _, [] => []
  | fuel + 1, line, c :: cs =>
    match c, cs with
    | ' ', _ | '\t', _ => signsFrom fuel line cs
    | '\n', _ => (.lineEnd, line) :: signsFrom fuel (line + 1) cs
    | '\\', '\n' :: rest => signsFrom fuel (line + 1) rest
    | '#', _ => signsFrom fuel line (cs.dropWhile (· != '\n'))
    | _, _ =>
      match signAt (c :: cs) with
      | .error complaint => [(.broken complaint, line)]
      | .ok (signs, rest) =>
        let passed := ((c :: cs).take ((c :: cs).length - rest.length)).count '\n'
        signs.map (·, line) ++ signsFrom fuel (line + passed) rest

/-- The signs of a script, each with the number of its line. -/
def signsOf (script : List Char) : List (Sign × Nat) :=
  signsFrom (script.length + 1) 1 script

end Shell

end TokenLint
