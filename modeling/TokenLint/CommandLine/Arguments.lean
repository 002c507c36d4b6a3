import TokenLint.CommandLine.Option
import TokenLint.Number.Reading
import TokenLint.Path

/-!
# Reading the command line

The words of a command line are sorted into options and other words before any of them counts. A word
that begins like one long flag only stands for it. A value is part of the word of its option, or the word
after it. A double hyphen ends the options; as part of the word of an option it leaves the option without
a value.

Then the words count from left to right. The first word that is not an option names the file or
directory; the others are left over, as are words that look like options but are none, and words that
are left over are refused at the end. Help ends the reading as soon as it is asked for.

## Main definitions

* `Word`: A word of the command line, sorted.
* `Word.sort`: The sorting of the words.
* `Cluster`: The options in one word.
* `Arguments`: What the command line asks for.
* `Halt`: Why reading ends before the last word.
* `Arguments.read`: The reading of a command line.
-/

namespace TokenLint

namespace CommandLine

/-- A word of the command line, sorted. -/
inductive Word where
  /-- A word that is not an option. -/
  | plain (s : String)
  /-- The end of the options. -/
  | separator
  /-- An option, by one of its flags, perhaps with a value in the same word. -/
  | option (o : OptionSpec) (flag : String) (value : Option (List Char))
  /-- A word that looks like an option. -/
  | unknown (s : String)
deriving DecidableEq, Repr

/-- Why reading ends before the last word. -/
inductive Halt where
  /-- Help is asked for. -/
  | help
  /-- The command line is refused. -/
  | refused (complaint : String)
deriving DecidableEq, Repr

/-- The part of a word before its first equals sign, and the part after it if it has one. -/
def splitValue (s : String) : String × Option (List Char) :=
  let (front, value) := Text.cutAt '=' s.toList
  (String.ofList front, value)

/-- Whether a word is a negative number, perhaps with a line end after it. -/
def isNegativeNumber (s : String) : Bool :=
  match s.toList with
  | '-' :: cs =>
    let cs := if cs.getLast? = some '\n' then cs.dropLast else cs
    let isDigit (c : Char) : Bool := (Text.digitValue? c).isSome
    let whole := cs.takeWhile isDigit
    match cs.drop whole.length with
    | [] => !whole.isEmpty
    | '.' :: fraction => !fraction.isEmpty && fraction.all isDigit
    | _ => false
  | _ => false

/-- The options that a word can stand for: by the start of a long flag, or by a short flag with the value
behind it. -/
def candidates (s : String) : List (String × OptionSpec × Option (List Char)) :=
  match s.toList with
  | '-' :: '-' :: _ =>
    let (front, value) := splitValue s
    OptionSpec.flagged.filterMap fun (flag, o) =>
      if front.toList.isPrefixOf flag.toList then some (flag, o, value) else none
  | '-' :: c :: rest =>
    OptionSpec.flagged.filterMap fun (flag, o) =>
      if flag = String.ofList ['-', c] then some (flag, o, some rest)
      else if s.toList.isPrefixOf flag.toList then some (flag, o, none)
      else none
  | _ => []

/-- The complaint about a word that can stand for several options. -/
def ambiguous (s : String) (flags : List String) : String :=
  s!"ambiguous option: {s} could match " ++ Text.joinWith ", " flags

/-- A word in the place of an option, sorted. -/
def Word.ofString (s : String) : Except Halt Word :=
  let (front, value) := splitValue s
  if !(s.toList.head? = some '-') then .ok (.plain s)
  else match OptionSpec.find? s with
    | some o => .ok (.option o s none)
    | none =>
      -- A single hyphen names the standard input by custom, and is no option.
      if s = "-" then .ok (.plain s)
      else match value, OptionSpec.find? front with
        | some v, some o => .ok (.option o front (some v))
        | _, _ => match candidates s with
          | [(flag, o, value)] => .ok (.option o flag value)
          | [] =>
            if isNegativeNumber s || s.toList.contains ' ' then .ok (.plain s) else .ok (.unknown s)
          | several => .error (.refused (ambiguous s (several.map (·.1))))

/-- The words of a command line, sorted. -/
def Word.sort : List String → Except Halt (List Word)
  | [] => .ok []
  | s :: rest => do
    if s = "--" then return .separator :: rest.map .plain
    else
      let word ← Word.ofString s
      return word :: (← Word.sort rest)

/-- A word that is no option, as it was written. -/
def Word.text? : Word → Option String
  | plain s | unknown s => some s
  | separator => some "--"
  | option _ _ _ => none

/-- What the command line asks for. -/
structure Arguments where
  /-- The file or directory. -/
  path : Option Path
  /-- The interpreter of the syntax pre-check. -/
  interpreter : Option String
  /-- The settings file. -/
  settingsFile : Option Path
  /-- The rules to run. -/
  rules : List String
  /-- The number of files at a time. -/
  workers : Option Int
  /-- Whether the syntax pre-check is left out. -/
  skipsSyntaxCheck : Bool
  /-- How the outcome is written. -/
  format : OutputFormat
  /-- Which findings make the run fail. -/
  failOn : Option FailPolicy
  /-- Whether findings that may stay are listed too. -/
  showWarnings : Bool
  /-- How log records are written. -/
  logFormat : Option String
  /-- How much a log record has to matter. -/
  logLevel : Option String
  /-- Whether the rules are listed. -/
  listsRules : Bool
  /-- Whether the version is asked for. -/
  showsVersion : Bool
  /-- The options that were given, but without a value. -/
  valueless : List OptionName
deriving DecidableEq, Repr

/-- What an empty command line asks for. -/
def Arguments.empty : Arguments where
  path := none
  interpreter := none
  settingsFile := none
  rules := []
  workers := none
  skipsSyntaxCheck := false
  format := .text
  failOn := none
  showWarnings := false
  logFormat := none
  logLevel := none
  listsRules := false
  showsVersion := false
  valueless := []

/-- The refusal of an option, with a complaint. -/
def refuse (o : OptionSpec) (complaint : String) : Halt :=
  .refused s!"argument {o.title}: {complaint}"

/-- A positive whole number, or the complaint about what is none. -/
def positiveWhole (raw : String) : Except String Int :=
  match Number.readWhole raw with
  | .error _ => .error s!"invalid integer: {Text.quoted raw}"
  | .ok n => if n < 1 then .error s!"must be at least 1, got {n}" else .ok n

/-- The complaint about a value that is none of the words. -/
def noSuchWord (value : String) (choices : List String) : String :=
  s!"invalid choice: {Text.quoted value} (choose from " ++
    Text.joinWith ", " (choices.map Text.quoted) ++ ")"

/-- What the command line asks for with one more option that has been left without its value. A rule then
goes by the text of an empty list, and so does a level. -/
def Arguments.withoutValue (a : Arguments) (o : OptionSpec) : Arguments :=
  let a := { a with valueless := o.name :: a.valueless }
  match o.name with
  | .interpreter => { a with interpreter := none }
  | .settingsFile => { a with settingsFile := none }
  | .rule => { a with rules := a.rules ++ ["[]"] }
  | .workers => { a with workers := none }
  | .failOn => { a with failOn := none }
  | .logFormat => { a with logFormat := none }
  | .logLevel => { a with logLevel := some "[]" }
  | _ => a

/-- What the command line asks for with one more option that has a value. -/
def Arguments.withValue (a : Arguments) (o : OptionSpec) (value : String) : Except Halt Arguments :=
  let a := { a with valueless := a.valueless.filter (· ≠ o.name) }
  if value = "--" then .ok (a.withoutValue o)
  else if !o.choices.isEmpty ∧ !(o.choices.contains value) then
    .error (refuse o (noSuchWord value o.choices))
  else match o.name with
    | .interpreter => .ok { a with interpreter := some value }
    | .settingsFile => .ok { a with settingsFile := some (.ofString value) }
    | .rule => .ok { a with rules := a.rules ++ [value] }
    | .workers => match positiveWhole value with
      | .ok n => .ok { a with workers := some n }
      | .error complaint => .error (refuse o complaint)
    | .format => .ok { a with format := (Vocabulary.ofWord? value).getD a.format }
    | .failOn => .ok { a with failOn := Vocabulary.ofWord? value }
    | .logFormat => .ok { a with logFormat := some value }
    | .logLevel => .ok { a with logLevel := some value }
    | _ => .ok a

/-- What the command line asks for with one more option that has no value. -/
def Arguments.withSwitch (a : Arguments) (o : OptionSpec) : Except Halt Arguments :=
  match o.name with
  | .help => .error .help
  | .noSyntaxCheck => .ok { a with skipsSyntaxCheck := true }
  | .showWarnings => .ok { a with showWarnings := true }
  | .listRules => .ok { a with listsRules := true }
  | .version => .ok { a with showsVersion := true }
  | _ => .ok a

/-- The options in one word and the words after it: those without a value, and perhaps a last one that
has one. -/
structure Cluster where
  /-- The options without a value. -/
  switches : List OptionSpec
  /-- The last option and its value. -/
  last : Option (OptionSpec × String)
  /-- The words that follow. -/
  rest : List Word

/-- The refusal of a value for an option that takes none. -/
def refuseValue (o : OptionSpec) (value : List Char) : Halt :=
  refuse o s!"ignored explicit argument {Text.quoted (String.ofList value)}"

/-- Something without a value in front of the rest of a cluster. -/
def Cluster.withSwitch (o : OptionSpec) (c : Cluster) : Cluster :=
  { c with switches := o :: c.switches }

/-- The options of a word without a value, and the words after it, of which the first may be the value of
the option. -/
def Cluster.alone (o : OptionSpec) (rest : List Word) : Except Halt Cluster :=
  if o.takesValue then
    match rest with
    | .plain s :: rest => .ok ⟨[], some (o, s), rest⟩
    | _ => .error (refuse o "expected one argument")
  else .ok ⟨[o], none, rest⟩

/-- The options of a word with more behind the flag, and the words after it. Short flags without values
may share one hyphen, and what follows the last of them is its value. -/
def Cluster.attached (rest : List Word) (o : OptionSpec) (flag : String) :
    (value : List Char) → Except Halt Cluster
  | [] => if o.takesValue then .ok ⟨[], some (o, ""), rest⟩ else .error (refuseValue o [])
  | c :: more =>
    if o.takesValue then .ok ⟨[], some (o, String.ofList (c :: more)), rest⟩
    else if flag.toList.take 2 = ['-', '-'] then .error (refuseValue o (c :: more))
    else
      -- The next letter is a flag of its own, and what is behind it may be its value.
      let flag := String.ofList ['-', c]
      match OptionSpec.find? flag with
      | none => .error (refuseValue o (c :: more))
      | some next =>
        let others := if more.isEmpty then Cluster.alone next rest
          else Cluster.attached rest next flag more
        others.map (.withSwitch o)

/-- The options of a word that starts with a flag, and the words after it. -/
def Cluster.ofWord (o : OptionSpec) (flag : String) (value : Option (List Char)) (rest : List Word) :
    Except Halt Cluster :=
  match value with
  | none => Cluster.alone o rest
  | some value => Cluster.attached rest o flag value

/-- What the command line asks for with the options of a word. -/
def Arguments.withCluster (a : Arguments) (c : Cluster) : Except Halt Arguments := do
  let a ← c.switches.foldlM Arguments.withSwitch a
  match c.last with
  | some (o, value) => a.withValue o value
  | none => return a

/-- The state of reading: what the command line asks for so far, whether the file or directory is still
to come, and the words that are left over. -/
structure Reading where
  /-- What the command line asks for so far. -/
  found : Arguments
  /-- Whether the file or directory is still to come. -/
  wantsPath : Bool
  /-- The words that are left over. -/
  extra : List String

/-- Whether a word is an option or looks like one. -/
def Word.isOption : Word → Bool
  | option _ _ _ | unknown _ => true
  | _ => false

/-- The state after a word that may name the file or directory. -/
def Reading.plain (r : Reading) (s : String) : Reading :=
  if r.wantsPath then { r with found := { r.found with path := some (.ofString s) }, wantsPath := false }
  else { r with extra := r.extra ++ [s] }

/-- The words that belong to the file or directory at the end of the command line, of which the end of
the options may be one, and the words after them. -/
def splitPath (words : List Word) : List Word × List Word :=
  let lead := words.takeWhile (· == .separator)
  let rest := words.drop lead.length
  match rest with
  | .plain s :: more =>
    let trail := more.takeWhile (· == .separator)
    (lead ++ .plain s :: trail, more.drop trail.length)
  | _ => (lead, rest)

/-- The state after the words that follow the last option. -/
def Reading.finish (r : Reading) (words : List Word) : Reading :=
  if r.wantsPath then
    let (own, rest) := splitPath words
    let path := (own.findSome? fun | .plain s => some s | _ => none).map Path.ofString
    { r with
      found := { r.found with path }
      wantsPath := false
      extra := r.extra ++ rest.filterMap (·.text?) }
  else { r with extra := r.extra ++ words.filterMap (·.text?) }

/-- The state after the words of a command line, of which there are no more than `fuel`. -/
def Reading.words : (fuel : Nat) → Reading → List Word → Except Halt Reading
  | 0, r, _ => .ok r
  | fuel + 1, r, words =>
    if !(words.any (·.isOption)) then .ok (r.finish words)
    else match words with
      | .option o flag value :: rest => do
        let cluster ← Cluster.ofWord o flag value rest
        let found ← r.found.withCluster cluster
        Reading.words fuel { r with found } cluster.rest
      | .unknown s :: rest => Reading.words fuel { r with extra := r.extra ++ [s] } rest
      | .plain s :: rest => Reading.words fuel (r.plain s) rest
      | .separator :: rest => Reading.words fuel (r.plain "--") rest
      | [] => .ok r

/-- The reading of a command line. -/
def Arguments.read (argv : List String) : Except Halt Arguments := do
  let words ← Word.sort argv
  let r ← Reading.words (words.length + 1) ⟨.empty, true, []⟩ words
  match r.extra with
  | [] => return r.found
  | extra => throw (.refused ("unrecognized arguments: " ++ Text.joinWith " " extra))

end CommandLine

end TokenLint
