import TokenLint.Command.Machine
import TokenLint.Command.Shell.Script

/-!
# Sessions of a shell

What a shell knows while it runs a script, and the actions on that: reading and writing through numbered
channels, variables, and complaints. A shell may run an inner one, which starts with all that the outer one
knows, and of which only what it does to the world outside is kept.

## Main definitions

* `Manner`: How a shell puts things.
* `Channel`: Where something is read from or written to.
* `World`: What all shells share.
* `Session`: What a shell knows.
* `Leaving`: Why a shell leaves a command.
* `Action`: What a shell does.
* `Action.write`, `Action.say`, `Action.inner`: Some actions.
-/

namespace TokenLint

namespace Shell

/-- How a shell puts things. -/
structure Manner where
  /-- What stands before the number of a line. -/
  lineMark : String
  /-- How it says that there is no such command. -/
  absence : String
  /-- Whether faults of files read as the system words them. -/
  quotesSystem : Bool
  /-- The exit code of a command whose files are not to be had. -/
  faultStatus : Nat
  /-- Whether what is echoed is taken as it stands. -/
  echoesPlainly : Bool
deriving DecidableEq, Repr

/-- The manner of the shell that scripts can count on everywhere. -/
def Manner.standard : Manner := ⟨"", "not found", false, 2, false⟩

/-- The manner of the shell that is made for people. -/
def Manner.friendly : Manner := ⟨"line ", "command not found", true, 1, true⟩

/-- The manner of the shell that is a program. -/
def Manner.ofProgram (program : String) : Manner := if program = "bash" then .friendly else .standard

/-- Where something is read from or written to. -/
inductive Channel where
  /-- Something is written to a buffer. -/
  | buffer (place : Nat)
  /-- Something is read from a source. -/
  | source (place : Nat)
  /-- Something is added to a file. -/
  | file (path : Path)
  /-- Nothing is read, and what is written is lost. -/
  | nothing
deriving DecidableEq, Repr

/-- What all shells share. -/
structure World where
  /-- What was written to the buffers, last character first. -/
  buffers : Array Bytes
  /-- What is left in the sources. -/
  sources : Array Bytes
  /-- The files. -/
  tree : FileTree
  /-- The number of processes so far. -/
  processes : Nat

/-- What a shell knows. -/
structure Session where
  /-- How it puts things. -/
  manner : Manner
  /-- Its name. -/
  name : Bytes
  /-- Its arguments. -/
  args : List Bytes
  /-- The values of its variables. -/
  bindings : List (String × Bytes)
  /-- The variables that programs see. -/
  exported : List String
  /-- The variables that stay as they are. -/
  readonly : List String
  /-- The commands that have names. -/
  functions : List (String × ShellCommand)
  /-- Where each number leads. -/
  channels : List (Nat × Channel)
  /-- What is to be done on signals and, as number zero, at the end. -/
  traps : List (Nat × Bytes)
  /-- The line of the command that is run. -/
  line : Nat
  /-- The command that runs a script from its arguments, as it stands in complaints. -/
  within : Bytes
  /-- The exit code of the command before. -/
  status : Nat
  /-- The exit code of the last script whose output a command took. -/
  captured : Nat
  /-- The number of its process. -/
  process : Nat
  /-- The number of the process that it did not wait for, and its exit code. -/
  unattended : Option (Nat × Nat)
  /-- Which of its switches are on, by their letters. -/
  switches : List Char
  /-- The number of loops around the command. -/
  loops : Nat
  /-- The variables of the command that has a name and is run, if there is one, and what they were
  before. -/
  locals : Option (List (String × Option Bytes))
  /-- Whether the exit code of a command is looked at, so that a failure is no reason to stop. -/
  tested : Bool
  /-- What it shares with others. -/
  world : World

/-- Why a shell leaves a command. -/
inductive Leaving where
  /-- The shell ends with an exit code. -/
  | ended (status : Nat)
  /-- A signal ends a process. -/
  | killed (process signal : Nat)
  /-- Some loops are left. -/
  | broke (levels : Nat)
  /-- Some loops are left, and the last of them goes on. -/
  | continued (levels : Nat)
  /-- The command that has a name is left. -/
  | returned (status : Nat)
  /-- The script runs for too long. -/
  | exhausted
deriving DecidableEq, Repr

/-- What a shell does. -/
abbrev Action := ExceptT Leaving (StateM Session)

/-- The text of a number. -/
def ofNumber (n : Nat) : Bytes := (toString n).toList

namespace Session

/-- Whether a switch is on. -/
def isOn (s : Session) (letter : Char) : Bool := s.switches.contains letter

/-- The value of a parameter, if it has one. -/
def value? (s : Session) (name : String) : Option Bytes :=
  match name with
  | "?" => some (ofNumber s.status)
  | "$" => some (ofNumber s.process)
  | "#" => some (ofNumber s.args.length)
  | "-" => some s.switches
  | "!" => s.unattended.map fun (process, _) => ofNumber process
  | "0" => some s.name
  | "@" | "*" => if s.args.isEmpty then none else some ((s.args.intersperse [' ']).flatten)
  | _ =>
    match name.toList.mapM Text.asciiDigit? with
    | some digits => s.args[Text.ofDigits 10 digits - 1]?
    | none => Ordered.get? name s.bindings

/-- The session with a variable set. -/
def put (s : Session) (name : String) (value : Bytes) : Session :=
  { s with
    bindings := Ordered.put name value s.bindings
    exported := if s.isOn 'a' then name :: s.exported else s.exported }

end Session

/-- What is written to a channel is added to what is there. -/
def World.append (w : World) (channel : Channel) (bytes : Bytes) : World :=
  match channel with
  | .buffer place =>
    { w with buffers := w.buffers.modify place fun old => bytes.foldl (fun old c => c :: old) old }
  | .file path =>
    match w.tree.read path, w.tree.stepsFromTop? path with
    | .ok old, some steps =>
      let added := bytes.toNumbers
      { w with tree := { w.tree with top := w.tree.top.putFile steps (old ++ added) } }
    | _, _ => w
  | .source _ | .nothing => w

namespace Action

/-- Writes to a number. A number that leads nowhere takes nothing. -/
def write (number : Nat) (bytes : Bytes) : Action Unit :=
  modify fun s =>
    match Ordered.get? number s.channels with
    | some channel => { s with world := s.world.append channel bytes }
    | none => s

/-- The beginning of complaints about the command that is run. -/
def title : Action Bytes := do
  let s ← get
  return s.name ++ ": ".toList ++ s.manner.lineMark.toList ++ ofNumber s.line

/-- Complains in the name of a command. -/
def report (name message : Bytes) : Action Unit := do
  write 2 ((← title) ++ ": ".toList ++ name ++ ": ".toList ++ message ++ ['\n'])

/-- Complains. -/
def say (message : Bytes) : Action Unit := do
  write 2 ((← title) ++ ": ".toList ++ (← get).within ++ message ++ ['\n'])

/-- Sets the exit code. -/
def setStatus (status : Nat) : Action Unit := modify ({ · with status })

/-- Complains and ends the shell. -/
def fail {α : Type} (message : Bytes) : Action α := do
  say message
  throw (.ended 2)

/-- A value of the session. -/
def known {α : Type} (f : Session → α) : Action α := return f (← get)

/-- A new buffer. -/
def newBuffer : Action Nat := do
  let s ← get
  set { s with world := { s.world with buffers := s.world.buffers.push [] } }
  return s.world.buffers.size

/-- What was written to a buffer. -/
def bufferText (place : Nat) : Action Bytes :=
  known fun s => (s.world.buffers.getD place []).reverse

/-- A new source with a text in it. -/
def newSource (text : Bytes) : Action Nat := do
  let s ← get
  set { s with world := { s.world with sources := s.world.sources.push text } }
  return s.world.sources.size

/-- Lets a number lead to a channel, or nowhere. -/
def lead (number : Nat) (channel : Option Channel) : Action Unit :=
  modify fun s =>
    { s with channels := match channel with
        | some channel => Ordered.put number channel s.channels
        | none => Ordered.erase number s.channels }

/-- All that can be read from a number. -/
def readAll : Action Bytes := do
  let s ← get
  match Ordered.get? 0 s.channels with
  | some (.source place) =>
    set { s with world := { s.world with sources := s.world.sources.modify place fun _ => [] } }
    return s.world.sources.getD place []
  | some (.file path) =>
    return match s.world.tree.read path with
      | .ok bytes => Bytes.ofNumbers bytes
      | .error _ => []
  | _ => return []

/-- The next line of the input without its end, if there is a whole one, and whether there is one. -/
def readLine : Action (Bytes × Bool) := do
  let s ← get
  let text ← readAll
  let line := text.takeWhile (· != '\n')
  let rest := text.drop (line.length + 1)
  match Ordered.get? 0 s.channels with
  | some (.source place) =>
    modify fun s =>
      { s with world := { s.world with sources := s.world.sources.modify place fun _ => rest } }
  | some (.file _) =>
    let place ← newSource rest
    lead 0 (some (.source place))
  | _ => pure ()
  return (line, line.length < text.length)

/-- Does something and then restores what the session knew, apart from the world and the exit code. -/
def inner (act : Action Unit) : Action Nat := do
  let before ← get
  let result ← tryCatch (do act; return none) fun
    | .ended status | .returned status => return some status
    | .broke _ | .continued _ => return none
    | other => throw other
  let after ← get
  let status := result.getD after.status
  set { before with world := after.world, status := status }
  return status

/-- Does something and then takes back a part of what the session knew, also if it is left. -/
def restoring (back : (before after : Session) → Session) (act : Action Unit) : Action Unit := do
  let before ← get
  tryCatch act fun leaving => do
    modify (back before)
    throw leaving
  modify (back before)

/-- Does something while no exit code stops the shell. -/
def whileTested (act : Action Unit) : Action Unit :=
  restoring (fun before after => { after with tested := before.tested }) do
    modify ({ · with tested := true })
    act

/-- Does something and takes channels back afterwards. -/
def keepingChannels (act : Action Unit) : Action Unit :=
  restoring (fun before after => { after with channels := before.channels }) act

end Action

end Shell

end TokenLint
