import TokenLint.Command.Shell.Sign

/-!
# Commands of a shell script

The commands that the signs of a script make. A script is read one line at a time, where a line goes on
as long as a command in it does, so that what is wrong with a later line does not keep the ones before it
from being run.

## Main definitions

* `Redirection`: Where a command's input or output goes.
* `ShellCommand`: The commands.
* `nextLine`: The command of the first line of a script, and the signs of the others.
-/

namespace TokenLint

namespace Shell

/-- Where a command's input or output goes. -/
structure Redirection where
  /-- The number that is redirected. -/
  number : Nat
  /-- What kind of redirection it is. -/
  direction : Direction
  /-- The file, the other number or the document. -/
  target : ShellWord
deriving DecidableEq, Repr

/-- A command of a script. -/
inductive ShellCommand where
  /-- Nothing is done. -/
  | nothing
  /-- Variables are set, and a program is run, if there is one. -/
  | simple (line : Nat) (settings : List (String × ShellWord)) (words : List ShellWord)
      (redirections : List Redirection)
  /-- One command after another. -/
  | sequence (first second : ShellCommand)
  /-- The second command is run if the first comes to the wanted end. -/
  | dependent (success : Bool) (first second : ShellCommand)
  /-- The end is turned round. -/
  | negated (c : ShellCommand)
  /-- The output of the first command is the input of the second. -/
  | piped (first second : ShellCommand)
  /-- The shell does not wait for the command. -/
  | unattended (c : ShellCommand)
  /-- A shell of its own runs the command. -/
  | inner (c : ShellCommand)
  /-- A command and where its input and output go. -/
  | redirected (c : ShellCommand) (redirections : List Redirection)
  /-- One of two commands is run, by the end of a third. -/
  | branch (condition yes no : ShellCommand)
  /-- The body is run as long as the condition comes to the wanted end. -/
  | loop (success : Bool) (condition body : ShellCommand)
  /-- The body is run for each of some words, or for each argument. -/
  | each (name : String) (words : Option (List ShellWord)) (body : ShellCommand)
  /-- The first case of which a pattern stands for a word is run. -/
  | choice (word : ShellWord) (cases : List (List ShellWord × ShellCommand))
  /-- A name is given to a command. -/
  | definition (name : String) (body : ShellCommand)

instance : Inhabited ShellCommand := ⟨.nothing⟩

/-- The signs of a script with their lines. -/
abbrev Signs := List (Sign × Nat)

/-- What is made of signs, or else the complaint about one of them and its line. -/
abbrev Parsing := Except (String × Nat)

/-- The words that are signs of their own at the start of a command. -/
def reservedWords : List String :=
  ["!", "\x7b", "\x7d", "if", "then", "elif", "else", "fi", "for", "in", "do", "done", "while", "until",
    "case", "esac"]

/-- The reserved word that a sign is. -/
def Sign.reserved? : Sign → Option String
  | .word [.text false cs] =>
    if reservedWords.contains (String.ofList cs) then some (String.ofList cs) else none
  | _ => none

/-- A sign as complaints name it. -/
def Sign.title (s : Sign) : String :=
  match s, s.reserved? with
  | _, some name => s!"\"{name}\""
  | .word _, _ => "word"
  | .operator s, _ => s!"\"{s}\""
  | .redirect _ _, _ => "redirection"
  | .lineEnd, _ => "newline"
  | .broken complaint, _ => complaint

/-- The line that signs start on. The end of a script is on its last line. -/
def lineOf (last : Nat) : Signs → Nat
  | [] => last
  | (_, line) :: _ => line

/-- The complaint about the first of some signs, where another one may have been expected. -/
def unexpected {α : Type} (last : Nat) (signs : Signs) (expected : Option String) : Parsing (α × Signs) :=
  let wish := (expected.map fun s => s!" (expecting \"{s}\")").getD ""
  match signs with
  | [] => .error ("end of file unexpected" ++ wish, last)
  | (.broken complaint, line) :: _ => .error (complaint, line)
  | (s, line) :: _ => .error (s.title ++ " unexpected" ++ wish, line)

/-- The signs after a sign that has to be the first. -/
def expect (last : Nat) (wanted : String) (signs : Signs) : Parsing (Unit × Signs) :=
  match signs with
  | (s, _) :: rest =>
    if s = .operator wanted ∨ s.reserved? = some wanted then .ok ((), rest)
    else unexpected last signs (some wanted)
  | [] => unexpected last signs (some wanted)

/-- Signs without the line ends in front of them. -/
def dropLineEnds (signs : Signs) : Signs := signs.dropWhile (·.1 == .lineEnd)

/-- Whether signs go on with a command. -/
def continues : Signs → Bool
  | [] => false
  | (.operator s, _) :: _ => s != ")" && s != ";;"
  | (s, _) :: _ =>
    match s.reserved? with
    | some word => !(["then", "elif", "else", "fi", "do", "done", "esac", "\x7d"].contains word)
    | none => true

/-- The name and the value of the variable that a word sets, if it sets one. -/
def settingOf? : ShellWord → Option (String × ShellWord)
  | .text false cs :: rest =>
    let name := cs.takeWhile (· != '=')
    match cs.drop name.length, name with
    | _ :: value, c :: more =>
      if startsName c && more.all continuesName then
        some (String.ofList name, if value.isEmpty then rest else .text false value :: rest)
      else none
    | _, _ => none
  | _ => none

/-- The name that is given to a command at the start of signs, if that is so, and what follows the bracket
after it. -/
def functionAt? (signs : Signs) : Option (String × Signs) :=
  match signs with
  | (.word [.text false name], _) :: (.operator "(", _) :: rest =>
    if (settingOf? [.text false name]).isSome then none else some (String.ofList name, rest)
  | _ => none

/-- The redirection at the start of signs, if there is one. -/
def redirectionAt? (last : Nat) (signs : Signs) : Option (Parsing (Redirection × Signs)) :=
  match signs with
  | (.redirect number direction, _) :: (.word target, _) :: rest =>
    some (.ok (⟨number, direction, target⟩, rest))
  | (.redirect _ _, _) :: rest => some (unexpected last rest none)
  | _ => none

/-- All redirections at the start of signs. -/
def redirectionsAt (last : Nat) : (fuel : Nat) → Signs → Parsing (List Redirection × Signs)
  | 0, signs => .ok ([], signs)
  | fuel + 1, signs =>
    match redirectionAt? last signs with
    | none => .ok ([], signs)
    | some found => do
      let (r, rest) ← found
      let (rs, rest) ← redirectionsAt last fuel rest
      return (r :: rs, rest)

/-- All words at the start of signs. -/
def wordsAt : Signs → List ShellWord × Signs
  | (.word w, _) :: rest =>
    let (ws, rest) := wordsAt rest
    (w :: ws, rest)
  | signs => ([], signs)

/-- The settings, words and redirections of a simple command at the start of signs. -/
def simpleAt (last line : Nat) : (fuel : Nat) → (settings : List (String × ShellWord)) →
    (words : List ShellWord) → (redirections : List Redirection) → Signs →
    Parsing (ShellCommand × Signs)
  | 0, settings, words, rs, signs => .ok (.simple line settings.reverse words.reverse rs.reverse, signs)
  | fuel + 1, settings, words, rs, signs =>
    match redirectionAt? last signs, signs with
    | some found, _ => do
      let (r, rest) ← found
      simpleAt last line fuel settings words (r :: rs) rest
    | none, (.word w, _) :: rest =>
      match words, settingOf? w with
      | [], some setting => simpleAt last line fuel (setting :: settings) [] rs rest
      | _, _ => simpleAt last line fuel settings (w :: words) rs rest
    | none, (.broken complaint, line) :: _ => .error (complaint, line)
    | none, _ =>
      if settings.isEmpty && words.isEmpty && rs.isEmpty then unexpected last signs none
      else .ok (.simple line settings.reverse words.reverse rs.reverse, signs)

/-- The patterns of a case at the start of signs, up to the bracket that ends them. -/
def patternsAt (last : Nat) : (fuel : Nat) → Signs → Parsing (List ShellWord × Signs)
  | 0, signs => unexpected last signs none
  | fuel + 1, signs =>
    match signs with
    | (.word w, _) :: (.operator "|", _) :: rest => do
      let (ws, rest) ← patternsAt last fuel rest
      return (w :: ws, rest)
    | (.word w, _) :: rest => do
      let ((), rest) ← expect last ")" rest
      return ([w], rest)
    | [] => unexpected last [] (some ")")
    | _ => unexpected last signs none

/-- A command with the sign that separates it from the next one, the signs after that, and whether there
is such a sign. -/
def separated (c : ShellCommand) (signs : Signs) : ShellCommand × Signs × Bool :=
  match signs with
  | (.operator "&", _) :: rest => (.unattended c, rest, true)
  | (.operator ";", _) :: rest => (c, rest, true)
  | _ => (c, signs, false)

/-- A command that others make up, with the redirections that follow. -/
def compound (last : Nat) (c : ShellCommand) (signs : Signs) : Parsing (ShellCommand × Signs) := do
  let (rs, rest) ← redirectionsAt last (signs.length + 1) signs
  return (if rs.isEmpty then c else .redirected c rs, rest)

mutual

/-- The commands at the start of signs, over several lines, up to a sign that ends them. -/
def listAt (last : Nat) : (fuel : Nat) → Signs → Parsing (ShellCommand × Signs)
  | 0, signs => unexpected last signs none
  | fuel + 1, signs => do
    let signs := dropLineEnds signs
    if signs.isEmpty then return (.nothing, [])
    let (c, rest) ← junctionAt last fuel signs
    let (c, rest, ended) := separated c rest
    let after := dropLineEnds rest
    if (ended || after.length < rest.length) && continues after then
      let (d, rest) ← listAt last fuel after
      return (.sequence c d, rest)
    else return (c, after)

/-- Commands that depend on each other at the start of signs. -/
def junctionAt (last : Nat) : (fuel : Nat) → Signs → Parsing (ShellCommand × Signs)
  | 0, signs => unexpected last signs none
  | fuel + 1, signs => do
    let (c, rest) ← pipelineAt last fuel signs
    junctionRest last fuel c rest

/-- The rest of commands that depend on each other, after the first of them. -/
def junctionRest (last : Nat) : (fuel : Nat) → ShellCommand → Signs → Parsing (ShellCommand × Signs)
  | 0, c, signs => .ok (c, signs)
  | fuel + 1, c, signs =>
    let next (success : Bool) (rest : Signs) := do
      let (d, rest) ← pipelineAt last fuel (dropLineEnds rest)
      junctionRest last fuel (.dependent success c d) rest
    match signs with
    | (.operator "&&", _) :: rest => next true rest
    | (.operator "||", _) :: rest => next false rest
    | _ => .ok (c, signs)

/-- Commands that hand their output on at the start of signs, perhaps with their end turned round. -/
def pipelineAt (last : Nat) : (fuel : Nat) → Signs → Parsing (ShellCommand × Signs)
  | 0, signs => unexpected last signs none
  | fuel + 1, signs =>
    match signs with
    | (s, _) :: rest =>
      if s.reserved? = some "!" then (pipesAt last fuel rest).map fun (c, rest) => (.negated c, rest)
      else pipesAt last fuel signs
    | [] => pipesAt last fuel signs

/-- Commands that hand their output on at the start of signs. -/
def pipesAt (last : Nat) : (fuel : Nat) → Signs → Parsing (ShellCommand × Signs)
  | 0, signs => unexpected last signs none
  | fuel + 1, signs => do
    let (c, rest) ← commandAt last fuel signs
    match rest with
    | (.operator "|", _) :: rest =>
      let (d, rest) ← pipesAt last fuel (dropLineEnds rest)
      return (.piped c d, rest)
    | _ => return (c, rest)

/-- The command at the start of signs. -/
def commandAt (last : Nat) : (fuel : Nat) → Signs → Parsing (ShellCommand × Signs)
  | 0, signs => unexpected last signs none
  | fuel + 1, signs =>
    match signs with
    | (.operator "(", _) :: rest => do
      let (c, rest) ← listAt last fuel rest
      let ((), rest) ← expect last ")" rest
      compound last (.inner c) rest
    | (s, line) :: rest =>
      match s.reserved? with
      | some "\x7b" => do
        let (c, rest) ← listAt last fuel rest
        let ((), rest) ← expect last "\x7d" rest
        compound last c rest
      | some "if" => do
        let (c, rest) ← branchAt last fuel rest
        compound last c rest
      | some "while" => loopAt last fuel true rest
      | some "until" => loopAt last fuel false rest
      | some "for" => eachAt last fuel rest
      | some "case" => choiceAt last fuel rest
      | some _ => unexpected last signs none
      | none =>
        match functionAt? signs with
        | some (name, rest) => do
          let ((), rest) ← expect last ")" rest
          let (c, rest) ← commandAt last fuel (dropLineEnds rest)
          return (.definition name c, rest)
        | none => simpleAt last line (signs.length + 1) [] [] [] signs
    | [] => unexpected last signs none

/-- The condition and the branches after the word that begins them. -/
def branchAt (last : Nat) : (fuel : Nat) → Signs → Parsing (ShellCommand × Signs)
  | 0, signs => unexpected last signs none
  | fuel + 1, signs => do
    let (condition, rest) ← listAt last fuel signs
    let ((), rest) ← expect last "then" rest
    let (yes, rest) ← listAt last fuel rest
    match rest.head?.bind (·.1.reserved?) with
    | some "elif" =>
      let (no, rest) ← branchAt last fuel (rest.drop 1)
      return (.branch condition yes no, rest)
    | some "else" =>
      let (no, rest) ← listAt last fuel (rest.drop 1)
      let ((), rest) ← expect last "fi" rest
      return (.branch condition yes no, rest)
    | _ =>
      let ((), rest) ← expect last "fi" rest
      return (.branch condition yes .nothing, rest)

/-- The condition and the body after the word that begins them. -/
def loopAt (last : Nat) : (fuel : Nat) → (success : Bool) → Signs → Parsing (ShellCommand × Signs)
  | 0, _, signs => unexpected last signs none
  | fuel + 1, success, signs => do
    let (condition, rest) ← listAt last fuel signs
    let (body, rest) ← bodyAt last fuel rest
    compound last (.loop success condition body) rest

/-- The body between the words that begin and end it. -/
def bodyAt (last : Nat) : (fuel : Nat) → Signs → Parsing (ShellCommand × Signs)
  | 0, signs => unexpected last signs none
  | fuel + 1, signs => do
    let ((), rest) ← expect last "do" (dropLineEnds signs)
    let (body, rest) ← listAt last fuel rest
    let ((), rest) ← expect last "done" rest
    return (body, rest)

/-- The variable, the words and the body after the word that begins them. -/
def eachAt (last : Nat) : (fuel : Nat) → Signs → Parsing (ShellCommand × Signs)
  | 0, signs => unexpected last signs none
  | fuel + 1, signs =>
    match signs with
    | (.word [.text false name], line) :: rest => do
      if !(name.head?.any startsName && name.all continuesName) then
        throw ("Bad for loop variable", line)
      let after := dropLineEnds rest
      let (words, rest) := match after with
        | (s, _) :: more =>
          if s.reserved? = some "in" then
            let (words, more) := wordsAt more
            (some words, more)
          else (none, rest)
        | [] => (none, rest)
      if words.isSome && rest.isEmpty then throw ("end of file unexpected", last)
      let rest := match rest with
        | (.operator ";", _) :: more => more
        | _ => rest
      let (body, rest) ← bodyAt last fuel rest
      compound last (.each (String.ofList name) words body) rest
    | _ => .error ("Bad for loop variable", lineOf last signs)

/-- The word and the cases after the word that begins them. -/
def choiceAt (last : Nat) : (fuel : Nat) → Signs → Parsing (ShellCommand × Signs)
  | 0, signs => unexpected last signs none
  | fuel + 1, signs =>
    match signs with
    | (.word w, _) :: rest => do
      let ((), rest) ← expect last "in" (dropLineEnds rest)
      let (cases, rest) ← casesAt last fuel (dropLineEnds rest)
      compound last (.choice w cases) rest
    | _ => unexpected last signs none

/-- Cases up to the word that ends them. -/
def casesAt (last : Nat) : (fuel : Nat) → Signs → Parsing (List (List ShellWord × ShellCommand) × Signs)
  | 0, signs => unexpected last signs none
  | fuel + 1, signs => do
    if (signs.head?.bind (·.1.reserved?)) = some "esac" then return ([], signs.drop 1)
    let rest := match signs with
      | (.operator "(", _) :: more => more
      | _ => signs
    let (patterns, rest) ← patternsAt last (rest.length + 1) rest
    let after := dropLineEnds rest
    let (body, rest) ← if continues after then listAt last fuel after else .ok (.nothing, after)
    match rest with
    | (.operator ";;", _) :: more =>
      let (cases, rest) ← casesAt last fuel (dropLineEnds more)
      return ((patterns, body) :: cases, rest)
    | _ =>
      let ((), rest) ← expect last "esac" rest
      return ([(patterns, body)], rest)

end

/-- The commands up to the end of a line. -/
def lineAt (last : Nat) : (fuel : Nat) → Signs → Parsing (ShellCommand × Signs)
  | 0, signs => unexpected last signs none
  | fuel + 1, signs => do
    let (c, rest) ← junctionAt last (10 * signs.length + 10) signs
    let (c, rest, ended) := separated c rest
    match rest with
    | [] => return (c, [])
    | (.lineEnd, _) :: rest => return (c, rest)
    | _ =>
      if !ended then unexpected last rest none
      else
        let (d, rest) ← lineAt last fuel rest
        return (.sequence c d, rest)

/-- The command of the first line of a script, if it has one, and the signs of the others. -/
def nextLine (last : Nat) (signs : Signs) : Option (Parsing (ShellCommand × Signs)) :=
  match dropLineEnds signs with
  | [] => none
  | signs => some (lineAt last (signs.length + 1) signs)

end Shell

end TokenLint
