import TokenLint.Command.Shell.Pattern
import TokenLint.Command.Shell.Session
import TokenLint.Command.Shell.Sum

/-!
# Expansion of words

What becomes of the words of a script before a command sees them: parameters, outputs of scripts and
values of expressions are put in, what was put in outside of quotes is split at blanks, and patterns are
replaced by the names of files that they stand for.

## Main definitions

* `Mark`: A piece of an expanded word.
* `marksOf`: The marks of a word.
* `fieldsOf`: The fields that marks are split into.
* `expandWord`, `expandWords`: Words without and with splitting.
-/

namespace TokenLint

namespace Shell

/-- A piece of an expanded word. -/
inductive Mark where
  /-- A character, which may be quoted, and where the word may be split if it is one of those for that. -/
  | char (c : Char) (quoted split : Bool)
  /-- There is a field even if it has no characters. -/
  | present
  /-- A new field begins. -/
  | boundary
  /-- There is no field if it has no characters. -/
  | absent
deriving DecidableEq, Repr

/-- The marks of what is put into a word. -/
def marksOfValue (quoted : Bool) (value : Bytes) : List Mark := value.map fun c => .char c quoted !quoted

/-- The characters of marks. -/
def charsOf (marks : List Mark) : Pattern :=
  marks.filterMap fun
    | .char c quoted _ => some (c, quoted)
    | .boundary => some (' ', false)
    | _ => none

/-- The text of marks. -/
def textOf (marks : List Mark) : Bytes := (charsOf marks).map (·.1)

/-- The characters at which words are split. -/
def separators (s : Session) : Bytes := (Ordered.get? "IFS" s.bindings).getD [' ', '\t', '\n']

/-- A text without the line ends at its end. -/
def withoutLineEnds (cs : Bytes) : Bytes := (cs.reverse.dropWhile (· == '\n')).reverse

/-- The text of a script's arguments, given whether they are in quotes and which sign stands for them. -/
def argumentMarks (quoted : Bool) (name : String) (s : Session) : List Mark :=
  if name = "*" && quoted then
    marksOfValue true ((s.args.intersperse ((separators s).take 1)).flatten)
  else if s.args.isEmpty then [.absent]
  else ((s.args.map fun arg =>
    (if quoted then [.present] else []) ++ marksOfValue quoted arg).intersperse [.boundary]).flatten

/-- How a script is run for its output. -/
abbrev Capture := Bytes → Action Bytes

/-- The value of an arithmetic expression. -/
def valueOfSum (expression : Bytes) : Action Bytes := do
  let s ← get
  match evaluate (fun name => (s.value? name).getD []) expression with
  | .ok (n, given) =>
    for (name, value) in given do modify (·.put name (toString value).toList)
    return (toString n).toList
  | .error fault => Action.fail (fault.message expression)

/-- A text without double quotes, unless a backslash stands before them. -/
def withoutQuotes : Bytes → Bytes
  | '\\' :: c :: cs => '\\' :: c :: withoutQuotes cs
  | '"' :: cs => withoutQuotes cs
  | c :: cs => c :: withoutQuotes cs
  | [] => []

/-- Parts that were read, or else the complaint about them. -/
def partsOrFail : Except String ShellWord → Action ShellWord
  | .ok parts => return parts
  | .error complaint => Action.fail complaint.toList

/-- The parts of a text in a word, which may be in quotes. -/
def partsIn (quoted : Bool) (cs : Bytes) : Action ShellWord :=
  let unquoted := withoutQuotes cs
  partsOrFail
    (if quoted then (doubleQuoted false (unquoted.length + 1) unquoted).map (·.1) else wholeParts cs)

/-- The marks of a part of a word. -/
def marksOfPart (capture : Capture) : (fuel : Nat) → Part → Action (List Mark)
  | 0, _ => throw .exhausted
  | fuel + 1, part => do
    let inside (quoted : Bool) (cs : Bytes) : Action (List Mark) := do
      return ((← (← partsIn quoted cs).mapM (marksOfPart capture fuel)).flatten)
    match part with
    | .text true [] => return [.present]
    | .text quoted cs => return cs.map fun c => .char c quoted false
    | .output quoted script => return marksOfValue quoted (withoutLineEnds (← capture script))
    | .sum quoted expression =>
      let parts ← partsOrFail (doubleQuoted false (expression.length + 1) expression |>.map (·.1))
      let marks ← parts.mapM (marksOfPart capture fuel)
      return marksOfValue quoted (← valueOfSum (textOf marks.flatten))
    | .parameter quoted name use =>
      let s ← get
      let many := name = "@" || name = "*"
      let value := s.value? name
      let unset : Action Unit := do
        if s.isOn 'u' && value.isNone && !many then
          Action.fail (name.toList ++ ": parameter not set".toList)
      match use with
      | .plain =>
        unset
        return if many then argumentMarks quoted name s else marksOfValue quoted (value.getD [])
      | .length =>
        unset
        return marksOfValue quoted (ofNumber (value.getD []).length)
      | .trimmed atEnd longest pattern =>
        unset
        let pattern := charsOf (← inside false pattern)
        return marksOfValue quoted (pattern.trim atEnd longest (value.getD []))
      | .ifUnset sign strict word =>
        let lacks := if strict then (value.getD []).isEmpty else value.isNone
        let kept := if many then argumentMarks quoted name s else marksOfValue quoted (value.getD [])
        match sign with
        | '+' => if lacks then return [] else inside quoted word
        | '-' => if lacks then inside quoted word else return kept
        | '=' =>
          if !lacks then return kept
          let given := textOf (← inside quoted word)
          modify (·.put name given)
          return marksOfValue quoted given
        | _ =>
          if !lacks then return kept
          let standard := if strict then "parameter not set or null" else "parameter not set"
          let given := textOf (← inside quoted word)
          Action.fail (name.toList ++ ": ".toList ++ if word.isEmpty then standard.toList else given)

/-- The depth up to which words may be nested. -/
def nestingLimit : Nat := 1000

/-- A word with the home directory in the place of the tilde that it starts with, if that stands for it. -/
def atHome (s : Session) (word : ShellWord) : ShellWord :=
  match word with
  | .text false ('~' :: cs) :: more =>
    let name := cs.takeWhile (· != '/')
    let ends := name.length < cs.length || more.isEmpty
    let home := if name = "root".toList then some "/root".toList
      else if name.isEmpty then s.value? "HOME" else none
    match home with
    | some home => if ends then .text true home :: .text false (cs.drop name.length) :: more else word
    | none => word
  | _ => word

/-- The marks of a word. -/
def marksOf (capture : Capture) (word : ShellWord) : Action (List Mark) := do
  return (← (atHome (← get) word).mapM (marksOfPart capture nestingLimit)).flatten

/-- A field that is being read. -/
structure Field where
  /-- Its characters, last one first. -/
  chars : Pattern
  /-- Whether it counts without characters. -/
  counts : Bool

/-- The fields that marks are split into, given the one being read and whether a blank ended the one
before. -/
def fieldsFrom (separators : Bytes) : (field : Option Field) → (blank : Bool) → List Mark → List Pattern
  | field, _, [] => done field
  | field, blank, mark :: marks =>
    let current := field.getD ⟨[], false⟩
    match mark with
    | .present => fieldsFrom separators (some { current with counts := true }) false marks
    | .absent => fieldsFrom separators (some { current with counts := false }) blank marks
    | .boundary => done field ++ fieldsFrom separators none false marks
    | .char c quoted split =>
      if split && separators.contains c then
        if isBlank c then
          done field ++ fieldsFrom separators none (blank || (done field).length > 0) marks
        else if (done field).isEmpty && blank then fieldsFrom separators none false marks
        else current.chars.reverse :: fieldsFrom separators none false marks
      else fieldsFrom separators (some ⟨(c, quoted) :: current.chars, true⟩) false marks
where
  /-- The field, if there is one. -/
  done : Option Field → List Pattern
    | some field => if field.counts || !field.chars.isEmpty then [field.chars.reverse] else []
    | none => []

/-- The fields that marks are split into. -/
def fieldsOf (separators : Bytes) (marks : List Mark) : List Pattern :=
  fieldsFrom separators none false marks

/-- The names of files that a pattern stands for, or else the pattern itself. -/
def filesOf (tree : FileTree) (pattern : Pattern) : List Bytes :=
  let literal := pattern.map (·.1)
  let folder := (literal.reverse.dropWhile (· != '/')).reverse
  let last : Pattern := pattern.drop folder.length
  if !last.isOpen then [literal]
  else match tree.find (Machine.pathOf folder) with
    | .ok (.directory entries) =>
      let dotted := last.head?.map (·.1) = some '.'
      let names := (Ordered.sortByKey (entries.map fun (name, _) => (name, ()))).map (·.1.toList)
      let found := names.filter fun name => (dotted || name.head? != some '.') && last.accepts name
      if found.isEmpty then [literal] else found.map (folder ++ ·)
    | _ => [literal]

/-- The text of a word that is not split. -/
def expandWord (capture : Capture) (word : ShellWord) : Action Bytes := do
  return textOf (← marksOf capture word)

/-- The fields of words. -/
def expandWords (capture : Capture) (words : List ShellWord) : Action (List Bytes) := do
  let marks ← words.mapM (marksOf capture)
  let s ← get
  return (marks.flatMap (fieldsOf (separators s))).flatMap (filesOf s.world.tree)

end Shell

end TokenLint
