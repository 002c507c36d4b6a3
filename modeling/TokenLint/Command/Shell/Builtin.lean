import TokenLint.Command.Shell.Expansion

/-!
# Commands that are parts of a shell

## Main definitions

* `Signal`: The signals.
* `Action.redirect`: Where a redirection leads.
* `Runs`: How a shell runs commands and scripts inside of others.
* `builtin?`: What a command that is a part of the shell does.
-/

namespace TokenLint

namespace Shell

/-- The names of signals and their numbers. -/
def signals : List (String × Nat) := [
  ("EXIT", 0), ("HUP", 1), ("INT", 2), ("QUIT", 3), ("ILL", 4), ("TRAP", 5), ("ABRT", 6), ("BUS", 7),
  ("FPE", 8), ("KILL", 9), ("USR1", 10), ("SEGV", 11), ("USR2", 12), ("PIPE", 13), ("ALRM", 14),
  ("TERM", 15), ("CHLD", 17), ("CONT", 18), ("STOP", 19), ("TSTP", 20), ("TTIN", 21), ("TTOU", 22),
  ("URG", 23), ("XCPU", 24), ("XFSZ", 25), ("VTALRM", 26), ("PROF", 27), ("WINCH", 28), ("IO", 29),
  ("PWR", 30), ("SYS", 31)]

/-- The signals that end nothing. -/
def harmlessSignals : List Nat := [0, 17, 18, 23, 28]

/-- How a shell words that a signal ended a process. -/
def signalWords : List (Nat × String) := [
  (1, "Hangup"), (3, "Quit"), (4, "Illegal instruction"), (5, "Trace/breakpoint trap"), (6, "Aborted"),
  (7, "Bus error"), (8, "Floating point exception"), (9, "Killed"), (10, "User defined signal 1"),
  (11, "Segmentation fault"), (12, "User defined signal 2"), (14, "Alarm clock"), (15, "Terminated")]

/-- The number that a text of digits is. -/
def digits? (cs : Bytes) : Option Nat :=
  match cs.mapM Text.asciiDigit? with
  | some (d :: ds) => some (Text.ofDigits 10 (d :: ds))
  | _ => none

/-- The signal that a text names. -/
def signalOf? (cs : Bytes) : Option Nat :=
  match digits? cs with
  | some n => if n ≤ 64 then some n else none
  | none =>
    Ordered.get? (String.ofList cs).toUpper signals

/-- The name of a signal, or else its number. -/
def signalTitle (n : Nat) : Bytes :=
  match signals.find? fun (_, m) => m = n && 0 < n with
  | some (name, _) => name.toList
  | none => ofNumber n

/-- How a shell runs commands and scripts inside of others. -/
structure Runs where
  /-- Runs a command. -/
  command : ShellCommand → Action Unit
  /-- Runs the script that a text is. -/
  script : Bytes → Action Unit

/-- The output of a script, which a shell of its own runs. -/
def Runs.capture (runs : Runs) : Capture := fun script => do
  let place ← Action.newBuffer
  let before ← Action.known (·.status)
  let captured ← Action.inner do
    Action.lead 1 (some (.buffer place))
    runs.script script
  modify ({ · with status := before, captured })
  Action.bufferText place

/-- How a shell words that it cannot open or make a file. -/
def fileWords (making : Bool) : FileFault → String
  | .missing | .notDirectory => if making then "Directory nonexistent" else "No such file"
  | fault => (fault.report?.map (·.2)).getD ""

/-- The complaint of a shell that it cannot open or make a file. -/
def Manner.fileComplaint (m : Manner) (making : Bool) (name : Bytes) (fault : FileFault) : Bytes :=
  if m.quotesSystem then name ++ ": ".toList ++ ((fault.report?.map (·.2)).getD "").toList
  else
    let act := if making then "cannot create " else "cannot open "
    act.toList ++ name ++ ": ".toList ++ (fileWords making fault).toList

namespace Action

/-- The channel to a file that is written to, which is emptied first if that is wanted. -/
def channelTo (name : Bytes) (empty : Bool) : Action (Option Channel) := do
  let s ← get
  let path := Machine.pathOf name
  let refuse (fault : FileFault) : Action (Option Channel) := do
    say (s.manner.fileComplaint true name fault)
    return none
  let tree := s.world.tree
  match s.world.tree.stepsFromTop? path, tree.find path with
  | some ["dev", "null"], _ => return some .nothing
  | some ["dev", "stdout"], _ => return Ordered.get? 1 s.channels
  | some ["dev", "stderr"], _ => return Ordered.get? 2 s.channels
  | _, .ok (.directory _) => refuse .isDirectory
  | some steps, .ok (.file _) =>
    if empty then
      set { s with world := { s.world with tree := { tree with top := tree.top.putFile steps [] } } }
    return some (.file path)
  | some steps, .error .missing =>
    match tree.find ⟨path.anchor, path.steps.dropLast⟩ with
    | .ok (.directory _) =>
      if name.isEmpty then refuse .missing
      else
        set { s with world := { s.world with tree := { tree with top := tree.top.putFile steps [] } } }
        return some (.file path)
    | .ok _ => refuse .notDirectory
    | .error fault => refuse fault
  | _, .error fault => refuse fault
  | none, _ => refuse .missing

/-- The channel from a file. -/
def channelFrom (name : Bytes) : Action (Option Channel) := do
  let s ← get
  match s.world.tree.find (Machine.pathOf name) with
  | .ok (.file bytes) => return some (.source (← newSource (Bytes.ofNumbers bytes)))
  | .ok (.directory _) => return some .nothing
  | .error fault =>
    say (s.manner.fileComplaint false name fault)
    return none

/-- Lets a number lead where a redirection says. Tells whether that can be done. -/
def redirect (runs : Runs) (r : Redirection) : Action Bool := do
  let target ← expandWord runs.capture r.target
  let reach (channel : Option Channel) : Action Bool := do
    if channel.isSome then lead r.number channel
    return channel.isSome
  match r.direction with
  | .output => reach (← channelTo target true)
  | .append => reach (← channelTo target false)
  | .input => reach (← channelFrom target)
  | .document => reach (some (.source (← newSource target)))
  | .duplicate =>
    if target = ['-'] then
      lead r.number none
      return true
    match digits? target with
    | none => fail "Syntax error: Bad fd number".toList
    | some number =>
      match (← known fun s => Ordered.get? number s.channels) with
      | some channel => reach (some channel)
      | none =>
        say (ofNumber number ++ ": Bad file descriptor".toList)
        return false

/-- Follows redirections one after the other, as long as that can be done. -/
def redirectAll (runs : Runs) : List Redirection → Action Bool
  | [] => return true
  | r :: rs => do if ← redirect runs r then redirectAll runs rs else return false

/-- Does what a signal to the own process asks for. -/
def receive (runs : Runs) (signal : Nat) : Action Unit := do
  let s ← get
  match if signal = 9 ∨ signal = 0 then none else Ordered.get? signal s.traps with
  | some [] => return ()
  | some script =>
    let status := s.status
    runs.script script
    setStatus status
  | none => if !harmlessSignals.contains signal then throw (.killed s.process signal)

/-- Ends the shell where a complaint about a command is a reason to, or else sets the exit code. -/
def refuse (special : Bool) (name : Bytes) (message : Bytes) (status : Nat) : Action Unit := do
  report name message
  if special then throw (.ended status) else setStatus status

/-- A number that an argument has to be. -/
def numberIn (name : Bytes) (arg : Bytes) : Action Nat := do
  let trimmed := arg.dropWhile isBlank
  match digits? (if trimmed.head? = some '+' then trimmed.drop 1 else trimmed) with
  | some n => if n ≤ 2147483647 then return n else illegal
  | none => illegal
where
  /-- The complaint that an argument is no number. -/
  illegal : Action Nat := do
    report name ("Illegal number: ".toList ++ arg)
    throw (.ended 2)

/-- Applies what a program leaves. The name of a command that is a part of the shell is given, as it
complains where it cannot write. -/
def apply (name : Option Bytes) (effect : Utility.Effect) : Action Unit := do
  write 2 effect.err
  write 1 effect.out
  setStatus effect.status
  match name, (← known fun s => Ordered.get? 1 s.channels) with
  | some name, none =>
    if !effect.out.isEmpty then refuse false name (name ++ ": I/O error".toList) 1
  | _, _ => return ()

end Action

/-- Sends a signal. -/
def kill (runs : Runs) (args : List Bytes) : Action Unit := do
  let name := "kill".toList
  let send (signal : Nat) (targets : List Bytes) : Action Unit := do
    if targets.isEmpty then
      let usage := "Usage: kill [-s sigspec | -signum | -sigspec] [pid | job]... or\nkill -l [exitstatus]"
      return ← Action.refuse false name usage.toList 2
    Action.setStatus 0
    for target in targets do
      let s ← get
      match digits? target with
      | some process =>
        if process = s.process then Action.receive runs signal
        else if (s.unattended.map (·.1)) != some process then
          Action.refuse false name "No such process\n".toList 1
      | none =>
        let words := if target.head? = some '%' then "No such job: " else "Illegal number: "
        Action.refuse false name (words.toList ++ target) 2
  match args with
  | [['-', 'l']] =>
    Action.write 1 ((List.range 32).flatMap fun n => signalTitle n ++ ['\n'])
    Action.setStatus 0
  | [['-', 'l'], code] =>
    let n ← Action.numberIn name code
    Action.write 1 (signalTitle (if 128 < n then n - 128 else n) ++ ['\n'])
    Action.setStatus 0
  | ['-', 's'] :: signal :: targets =>
    match signalOf? signal with
    | some n => send n targets
    | none => Action.refuse false name ("invalid signal number or name: ".toList ++ signal) 2
  | ['-', '-'] :: targets => send 15 targets
  | ('-' :: signal) :: targets =>
    match signalOf? signal with
    | some n => send n targets
    | none => Action.refuse false name ("Illegal option -".toList ++ signal.take 1) 2
  | targets => send 15 targets

/-- The value of a setting and its name, if an argument is one. -/
def settingIn? (arg : Bytes) : Option (String × Bytes) :=
  let name := arg.takeWhile (· != '=')
  if name.length < arg.length then some (String.ofList name, arg.drop (name.length + 1)) else none

/-- Whether a text is a name. -/
def isName (cs : Bytes) : Bool := cs.head?.any startsName && cs.all continuesName

/-- Sets the variables that arguments set, and tells about all that they name. -/
def declare (command : String) (args : List Bytes) (mark : String → Session → Session) : Action Unit := do
  Action.setStatus 0
  for arg in args do
    let (name, value) := match settingIn? arg with
      | some (name, value) => (name, some value)
      | none => (String.ofList arg, none)
    if !isName name.toList then
      Action.refuse true command.toList (name.toList ++ ": bad variable name".toList) 2
    if value.isSome && (← Action.known (·.readonly.contains name)) then
      Action.refuse true command.toList (name.toList ++ ": is read only".toList) 2
    modify fun s => mark name (match value with
      | some value => s.put name value
      | none => s)

/-- The letters of switches that have names. -/
def switchNames : List (String × Char) :=
  [("errexit", 'e'), ("nounset", 'u'), ("xtrace", 'x'), ("noglob", 'f'), ("allexport", 'a'),
    ("noexec", 'n'), ("verbose", 'v')]

/-- The letters of switches. -/
def switchLetters : List Char := ['a', 'C', 'e', 'f', 'h', 'i', 'm', 'n', 'u', 'v', 'x', 'b', 'I', 'V', 'E']

/-- The session with a switch turned on or off. -/
def Session.turn (s : Session) (on : Bool) (letter : Char) : Session :=
  let others := s.switches.filter (· != letter)
  { s with switches := if on then others ++ [letter] else others }

/-- Turns switches on and off, and sets the arguments. -/
def setSwitches : List Bytes → Action Unit
  | [] => return ()
  | ['-', '-'] :: rest => modify ({ · with args := rest })
  | ['-', 'o'] :: name :: rest => do
    match Ordered.get? (String.ofList name) switchNames with
    | some letter => modify (·.turn true letter)
    | none => Action.refuse true "set".toList ("Illegal option -o ".toList ++ name) 2
    setSwitches rest
  | ['+', 'o'] :: name :: rest => do
    match Ordered.get? (String.ofList name) switchNames with
    | some letter => modify (·.turn false letter)
    | none => Action.refuse true "set".toList ("Illegal option +o ".toList ++ name) 2
    setSwitches rest
  | (sign :: letter :: letters) :: rest => do
    if sign = '-' ∨ sign = '+' then
      for c in letter :: letters do
        if switchLetters.contains c then modify (·.turn (sign = '-') c)
        else Action.refuse true "set".toList (("Illegal option " ++ String.ofList [sign, c]).toList) 2
      setSwitches rest
    else modify ({ · with args := (sign :: letter :: letters) :: rest })
  | rest => modify ({ · with args := rest })

/-- Reads a line into variables. -/
def read (args : List Bytes) : Action Unit := do
  let names := args.filter fun arg => arg.head? != some '-'
  let raw := args.contains ['-', 'r']
  let (line, whole) ← Action.readLine
  let s ← get
  let line := if raw then line else line.filter (· != '\\')
  let isSeparator (c : Char) : Bool := (separators s).contains c
  let isSpace (c : Char) : Bool := isSeparator c && isBlank c
  let rec fill (line : Bytes) : List Bytes → Action Unit
    | [] => return ()
    | [name] =>
      modify (·.put (String.ofList name) ((line.dropWhile isSpace).reverse.dropWhile isSpace).reverse)
    | name :: names => do
      let line := line.dropWhile isSpace
      let word := line.takeWhile (!isSeparator ·)
      let rest := (line.drop word.length).dropWhile isSpace
      modify (·.put (String.ofList name) word)
      fill (if rest.head?.any isSeparator then rest.drop 1 else rest) names
  fill line names
  Action.setStatus (if whole then 0 else 1)

/-- Sets what is done on signals. -/
def trap (args : List Bytes) : Action Unit := do
  Action.setStatus 0
  let args := if args.head? = some ['-', '-'] then args.drop 1 else args
  let (action, names) : Option Bytes × List Bytes := match args with
    | [name] => (none, [name])
    | ['-'] :: names => (none, names)
    | action :: names =>
      if (digits? action).isSome then (none, action :: names) else (some action, names)
    | [] => (none, [])
  for name in names do
    match signalOf? name with
    | some signal =>
      modify fun s =>
        { s with traps := match action with
            | some action => Ordered.put signal action s.traps
            | none => Ordered.erase signal s.traps }
    | none =>
      Action.write 2 ("trap: ".toList ++ name ++ ": bad trap\n".toList)
      Action.setStatus 1

/-- Changes the working directory. -/
def cd (args : List Bytes) : Action Unit := do
  let s ← get
  let flags : List Bytes := [['-', '-'], ['-', 'P'], ['-', 'L']]
  let target := match args.filter (!flags.contains ·) with
    | name :: _ => name
    | [] => (s.value? "HOME").getD []
  let path := Machine.pathOf target
  let home := s.world.tree.home
  let joined := if path.isAbsolute then path.steps else home.steps ++ path.steps
  let steps := joined.foldl (fun done name => if name = ".." then done.dropLast else done ++ [name]) []
  match s.world.tree.find ⟨home.anchor, steps⟩ with
  | .ok (.directory _) =>
    let tree := { s.world.tree with home := ⟨home.anchor, steps⟩ }
    set { s with status := 0, world := { s.world with tree } }
  | found =>
    let words := if s.manner.quotesSystem then
        s.manner.fileComplaint false target (match found with
          | .error fault => fault
          | .ok _ => .notDirectory)
      else "can't cd to ".toList ++ target
    Action.refuse false "cd".toList words s.manner.faultStatus

/-- The commands of which a complaint ends the shell. -/
def specialCommands : List String :=
  [":", ".", "break", "continue", "eval", "exec", "exit", "export", "readonly", "return", "set", "shift",
    "times", "trap", "unset"]

/-- The other commands that are parts of the shell. -/
def partCommands : List String :=
  ["true", "false", "echo", "printf", "test", "[", "cd", "pwd", "kill", "read", "wait", "local", "umask",
    "type", "command", "hash", "alias", "unalias", "jobs"]

/-- Leaves some of the loops around a command. -/
def leaveLoops (name : String) (args : List Bytes) (leaving : Nat → Leaving) : Action Unit := do
  let levels ← match args with
    | arg :: _ =>
      match digits? arg with
      | some 0 | none =>
        Action.report name.toList ("Illegal number: ".toList ++ arg)
        throw (.ended 2)
      | some n => pure n
    | [] => pure 1
  let around ← Action.known (·.loops)
  Action.setStatus 0
  if 0 < around then throw (leaving (min levels around))

/-- Keeps variables as they are until the command that has a name is done. -/
def declareLocal (args : List Bytes) : Action Unit := do
  if (← Action.known (·.locals)).isNone then
    Action.report "local".toList "not in a function".toList
    throw (.ended 2)
  Action.setStatus 0
  for arg in args do
    let (name, value) := match settingIn? arg with
      | some (name, value) => (name, some value)
      | none => (String.ofList arg, none)
    modify fun s =>
      let s := { s with locals := s.locals.map (· ++ [(name, Ordered.get? name s.bindings)]) }
      match value with
      | some value => s.put name value
      | none => s

/-- How a shell describes what a name stands for. -/
def describe (s : Session) (name : String) : Option String :=
  if reservedWords.contains name then some s!"{name} is a shell keyword"
  else if specialCommands.contains name then some s!"{name} is a special shell builtin"
  else if (Ordered.get? name s.functions).isSome then some s!"{name} is a shell function"
  else if partCommands.contains name then some s!"{name} is a shell builtin"
  else match Machine.locate s.world.tree name with
    | .ok _ => some s!"{name} is /usr/bin/{name}"
    | .error _ => none

/-- Describes what names stand for. -/
def describeAll (names : List Bytes) : Action Unit := do
  Action.setStatus 0
  for name in names do
    match describe (← get) (String.ofList name) with
    | some text => Action.write 1 (text.toList ++ ['\n'])
    | none =>
      Action.write 1 (name ++ ": not found\n".toList)
      Action.setStatus 127

/-- What a command that is a part of the shell does, if it is one. -/
def builtin? (runs : Runs) (name : String) (args : List Bytes) : Option (Action Unit) :=
  let title := name.toList
  match name with
  | ":" => some (Action.setStatus 0)
  | "eval" => some (Action.restoring (fun before after => { after with within := before.within }) do
    modify ({ · with status := 0, within := "eval: ".toList })
    runs.script ((args.intersperse [' ']).flatten))
  | "exit" | "return" => some do
    let status ← match args with
      | arg :: _ => Action.numberIn title arg
      | [] => Action.known (·.status)
    throw (if name = "exit" then .ended status else .returned status)
  | "break" => some (leaveLoops name args .broke)
  | "continue" => some (leaveLoops name args .continued)
  | "export" => some (declare name args fun name s => { s with exported := name :: s.exported })
  | "readonly" => some (declare name args fun name s => { s with readonly := name :: s.readonly })
  | "local" => some (declareLocal args)
  | "set" => some do
    Action.setStatus 0
    setSwitches args
  | "shift" => some do
    let n ← match args with
      | arg :: _ => Action.numberIn title arg
      | [] => pure 1
    if (← Action.known (·.args.length)) < n then Action.refuse true title "can't shift that many".toList 2
    modify fun s => { s with args := s.args.drop n, status := 0 }
  | "trap" => some (trap args)
  | "unset" => some do
    Action.setStatus 0
    let forgetFunctions := args.contains ['-', 'f']
    for arg in args.filter fun arg => arg.head? != some '-' do
      let name := String.ofList arg
      if forgetFunctions then modify fun s => { s with functions := Ordered.erase name s.functions }
      else if (← Action.known (·.readonly.contains name)) then
        Action.refuse true title (arg ++ ": is read only".toList) 2
      else modify fun s => { s with bindings := Ordered.erase name s.bindings }
  | "." => some do
    let s ← get
    let file := args.headD []
    match s.world.tree.read (Machine.pathOf file) with
    | .ok bytes => runs.script (Bytes.ofNumbers bytes)
    | .error fault =>
      if file.contains '/' then
        Action.refuse true title
          ("cannot open ".toList ++ file ++ ": ".toList ++ (fileWords false fault).toList) 2
      else Action.refuse true title (file ++ ": not found".toList) 2
  | "times" => some do
    Action.write 1 "0m0.000000s 0m0.000000s\n0m0.000000s 0m0.000000s\n".toList
    Action.setStatus 0
  | "cd" => some (cd args)
  | "kill" => some (kill runs args)
  | "read" => some (read args)
  | "wait" => some do
    let s ← get
    match args, s.unattended with
    | arg :: _, some (process, status) => Action.setStatus (if arg = ofNumber process then status else 127)
    | _ :: _, none => Action.setStatus 127
    | [], _ => Action.setStatus 0
  | "umask" => some do
    Action.write 1 (if args.isEmpty then "0022\n".toList else [])
    Action.setStatus 0
  | "type" => some (describeAll args)
  | "hash" => some do
    Action.setStatus 0
    for arg in args do
      if (describe (← get) (String.ofList arg)).isNone then
        Action.refuse false title (arg ++ ": not found".toList) 1
  | "alias" | "unalias" | "jobs" => some (Action.setStatus 0)
  | "true" | "false" | "echo" | "printf" | "test" | "[" | "pwd" => some do
    let s ← get
    let who : Utility.Speaker := ⟨(← Action.title) ++ ": ".toList ++ title,
      !(name = "echo" && s.manner.echoesPlainly)⟩
    Action.apply (some title) (Machine.perform s.world.tree who name args [])
  | _ => none

end Shell

end TokenLint
