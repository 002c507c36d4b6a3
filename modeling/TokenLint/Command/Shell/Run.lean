import TokenLint.Command.Shell.Builtin

/-!
# Running scripts

A script is run line by line. A command in it is a part of the shell, the name of another command, or a
program of the machine, which may be a shell itself.

## Main definitions

* `runScript`: Runs a script.
* `simple`: Runs a command that no other make up.
* `execute`: Runs any command.
* `Invocation`: How a shell is called.
* `start`: Runs a shell.
-/

namespace TokenLint

namespace Shell

/-- Runs the lines of a script. -/
def runLines (execute : ShellCommand → Action Unit) (last : Nat) : (fuel : Nat) → Signs → Action Unit
  | 0, _ => throw .exhausted
  | fuel + 1, signs => do
    match nextLine last signs with
    | none => return ()
    | some (.ok (c, rest)) =>
      execute c
      runLines execute last fuel rest
    | some (.error (complaint, line)) =>
      modify ({ · with line })
      let kind := if complaint = badSubstitution then "" else "Syntax error: "
      Action.fail (kind ++ complaint).toList

/-- Runs a script. -/
def runScript (execute : ShellCommand → Action Unit) (script : Bytes) : Action Unit := do
  let signs := signsOf script
  let shown := if script.getLast? = some '\n' then script.dropLast else script
  runLines execute (shown.count '\n' + 1) (signs.length + 1) signs

/-- What a shell runs inside of others, given how it runs commands. -/
def runsOf (execute : ShellCommand → Action Unit) : Runs := ⟨execute, runScript execute⟩

/-- Ends the shell if the command before failed and that is a reason to. -/
def stopIfFailed : Action Unit := do
  let s ← get
  if s.isOn 'e' && !s.tested && s.status ≠ 0 then throw (.ended s.status)

/-- Does something in a loop. Tells whether the loop goes on. -/
def inLoop (act : Action Bool) : Action Bool :=
  let leave (levels : Nat) (next : Nat → Leaving) (goOn : Bool) : Action Bool := do
    modify fun s => { s with loops := s.loops - 1 }
    if levels ≤ 1 then return goOn else throw (next (levels - 1))
  tryCatch (do
    modify fun s => { s with loops := s.loops + 1 }
    let goOn ← act
    modify fun s => { s with loops := s.loops - 1 }
    return goOn) fun
    | .broke levels => leave levels .broke false
    | .continued levels => leave levels .continued true
    | leaving => do
      modify fun s => { s with loops := s.loops - 1 }
      throw leaving

/-- Does something again and again as long as a condition holds. The exit code is that of the last time. -/
def repeated (condition : Action Bool) (body : Action Unit) : (fuel : Nat) → (status : Nat) → Action Unit
  | 0, _ => throw .exhausted
  | fuel + 1, status => do
    let goOn ← inLoop do
      if ← condition then
        body
        return true
      else
        Action.setStatus status
        return false
    if goOn then repeated condition body fuel (← Action.known (·.status))

/-- Does something for one after the other, as long as it says so. -/
def forEach (act : Bytes → Action Bool) : List Bytes → Action Unit
  | [] => return ()
  | word :: words => do if ← inLoop (act word) then forEach act words

/-- Ends a shell: what is to be done at the end is done. -/
def finishing (execute : ShellCommand → Action Unit) (act : Action Unit) : Action Unit := do
  let leave (status : Nat) : Action Unit := do
    let s ← get
    match Ordered.get? 0 s.traps with
    | some script =>
      set { s with status := status, traps := Ordered.erase 0 s.traps }
      runScript execute script
      Action.setStatus status
    | none => Action.setStatus status
  let result ← tryCatch (do act; Action.known (·.status)) fun
    | .ended status | .returned status => return status
    | .broke _ | .continued _ => Action.known (·.status)
    | leaving => throw leaving
  leave (result % 256)

/-- Runs a command in a shell of its own. -/
def inside (execute : ShellCommand → Action Unit) (act : Action Unit) : Action Unit := do
  let _ ← Action.inner do
    modify fun s => { s with traps := s.traps.filter fun (_, script) => script.isEmpty }
    finishing execute act

/-- How a shell is called. -/
structure Invocation where
  /-- Its name. -/
  name : Bytes
  /-- The script. -/
  script : Bytes
  /-- Its arguments. -/
  args : List Bytes
  /-- The switches that are on. -/
  switches : List Char

/-- How a shell is called with arguments, or else its complaint. The script may be in a file, or it is what
is read. -/
def Invocation.ofArguments (tree : FileTree) (name : Bytes) (input : Bytes) :
    (switches : List Char) → (command : Bool) → List Bytes → Except Bytes Invocation
  | switches, command, ['-', 'o'] :: word :: rest =>
    match Ordered.get? (String.ofList word) switchNames with
    | some letter => ofArguments tree name input (switches ++ [letter]) command rest
    | none => .error ("Illegal option -o ".toList ++ word)
  | switches, command, ['-', '-'] :: rest => operands switches command rest
  | switches, command, (sign :: letter :: letters) :: rest =>
    if sign = '-' ∨ sign = '+' then
      match (letter :: letters).find? fun c => !(switchLetters ++ ['c', 's', 'l']).contains c with
      | some c => .error ("Illegal option ".toList ++ [sign, c])
      | none =>
        let on := (letter :: letters).filter switchLetters.contains
        let on := if sign = '-' then switches ++ on else switches
        if (letter :: letters).contains 's' then .ok ⟨name, input, rest, on⟩
        else ofArguments tree name input on (command || (letter :: letters).contains 'c') rest
    else operands switches command ((sign :: letter :: letters) :: rest)
  | switches, command, rest => operands switches command rest
where
  /-- How a shell is called with the arguments that are no switches. -/
  operands (switches : List Char) (command : Bool) (args : List Bytes) : Except Bytes Invocation :=
    match command, args with
    | true, [] => .error "-c requires an argument".toList
    | true, script :: args => .ok ⟨args.headD name, script, args.drop 1, switches⟩
    | false, file :: args =>
      match tree.read (Machine.pathOf file) with
      | .ok bytes => .ok ⟨file, Bytes.ofNumbers bytes, args, switches⟩
      | .error fault =>
        .error ("cannot open ".toList ++ file ++ ": ".toList ++ (fileWords false fault).toList)
    | false, [] => .ok ⟨name, input, [], switches⟩

/-- The session of a shell that has done nothing yet. -/
def Invocation.session (i : Invocation) (manner : Manner) (channels : List (Nat × Channel)) (world : World)
    (bindings : List (String × Bytes)) : Session where
  manner := manner
  name := i.name
  args := i.args
  bindings := bindings
  exported := bindings.map (·.1)
  readonly := []
  functions := []
  channels := channels
  traps := []
  line := 1
  within := []
  status := 0
  captured := 0
  process := world.processes + 1
  unattended := none
  switches := i.switches
  loops := 0
  locals := none
  tested := false
  world := { world with processes := world.processes + 1 }

/-- Runs a shell, which may be within another. A signal that ends an outermost one ends all. -/
def startShell (execute : ShellCommand → Action Unit) (manner : Manner) (name : Bytes) (args : List Bytes) :
    Action Unit := do
  let outer ← get
  let reads := args.all (fun arg => arg.head? = some '-') || args.contains ['-', 's']
  let input ← if reads then Action.readAll else pure []
  match Invocation.ofArguments outer.world.tree name input [] false args with
  | .error complaint =>
    Action.write 2 (name ++ ": 0: ".toList ++ complaint ++ ['\n'])
    Action.setStatus 2
  | .ok invocation =>
    let world ← Action.known (·.world)
    let seen := outer.bindings.filter fun (name, _) => outer.exported.contains name
    let session := invocation.session manner outer.channels world seen
    set session
    let signal ← tryCatch (do finishing execute (runScript execute invocation.script); return none) fun
      | .killed process signal => do
        if process = session.process && outer.process ≠ 0 then return some signal
        throw (.killed process signal)
      | leaving => throw leaving
    let after ← get
    set { outer with
      status := after.status
      world := { after.world with tree := { after.world.tree with home := outer.world.tree.home } } }
    match signal with
    | some signal =>
      Action.setStatus (128 + signal)
      match signalWords.find? fun (n, _) => n = signal with
      | some (_, words) => Action.write 2 (words.toList ++ ['\n'])
      | none => return ()
    | none => return ()

/-- Does something for a program with variables of its own. -/
def withVariables (empty : Bool) (settings : List (String × Bytes)) (act : Action Unit) : Action Unit :=
  Action.restoring (fun before after =>
      { after with bindings := before.bindings, exported := before.exported }) do
    modify fun s =>
      { s with
        bindings := settings.foldl (fun bindings (name, value) => Ordered.put name value bindings)
          (if empty then [] else s.bindings.filter fun (name, _) => s.exported.contains name)
        exported := settings.map (·.1) ++ s.exported }
    act

/-- The arguments of the program that sets variables for another: whether it starts with none, the
variables, and the command. -/
def splitSettings (empty : Bool) (settings : List (String × Bytes)) : List Bytes →
    Bool × List (String × Bytes) × List Bytes
  | arg :: rest =>
    match settingIn? arg with
    | some setting => splitSettings empty (settings ++ [setting]) rest
    | none =>
      if arg = ['-', 'i'] && settings.isEmpty then splitSettings true settings rest
      else (empty, settings, arg :: rest)
  | [] => (empty, settings, [])

/-- Runs the program that sets variables for another. -/
def startWith (start : Bytes → List Bytes → String → Action Unit) (title : Bytes) (args : List Bytes) :
    Action Unit := do
  let (empty, settings, command) := splitSettings false [] args
  withVariables empty settings do
    let s ← get
    match command with
    | [] =>
      Action.write 1 (s.bindings.flatMap fun (name, value) => name.toList ++ '=' :: value ++ ['\n'])
      Action.setStatus 0
    | name :: args =>
      match Machine.locate s.world.tree (String.ofList name) with
      | .ok program => start name args program
      | .error fault =>
        let reason := ((fault.report?.map (·.2)).getD "").toList
        Action.write 2 (title ++ ": ".toList ++ Utility.quote name ++ ": ".toList ++ reason ++ ['\n'])
        Action.setStatus (if fault.isAbsence then 127 else 126)

/-- Starts a program of the machine. -/
def startProgram (execute : ShellCommand → Action Unit) : (fuel : Nat) → (command : Bytes) →
    (args : List Bytes) → (program : String) → Action Unit
  | 0, _, _, _ => throw .exhausted
  | fuel + 1, command, args, program => do
    if Machine.shells.contains program then startShell execute (.ofProgram program) command args
    else if Machine.starters.contains program then
      startWith (startProgram execute fuel) command args
    else
      let s ← get
      let input ← if Machine.filters.contains program then Action.readAll else pure []
      Action.apply none (Machine.perform s.world.tree ⟨command, false⟩ program args input)

/-- Runs a program of the machine. A title stands before the complaint that there is none. -/
def runProgram (execute : ShellCommand → Action Unit) (title command : Bytes) (args : List Bytes) :
    Action Unit := do
  let s ← get
  match Machine.locate s.world.tree (String.ofList command) with
  | .error fault =>
    let (status, words) := if command.isEmpty then (127, "Permission denied")
      else if fault.isAbsence then
        let known := s.manner.quotesSystem && command.contains '/'
        (127, if known then (fault.report?.map (·.2)).getD "" else s.manner.absence)
      else
        let isDirectory := (s.world.tree.find (Machine.pathOf command)).toOption matches some (.directory _)
        (126, if s.manner.quotesSystem && isDirectory then "Is a directory"
          else (fault.report?.map (·.2)).getD "not found")
    Action.say (title ++ command ++ ": ".toList ++ words.toList)
    Action.setStatus status
  | .ok program => startProgram execute (args.length + 1) command args program

/-- Runs a command that has a name. -/
def callFunction (execute : ShellCommand → Action Unit) (body : ShellCommand) (args : List Bytes) :
    Action Unit := do
  let before ← get
  let back (s : Session) : Session :=
    { s with
      args := before.args
      loops := before.loops
      locals := before.locals
      bindings := (s.locals.getD []).reverse.foldl (fun bindings (name, value) =>
        match value with
        | some value => Ordered.put name value bindings
        | none => Ordered.erase name bindings) s.bindings }
  set { before with args := args, loops := 0, locals := some [] }
  let status ← tryCatch (do execute body; return none) fun
    | .returned status => return some status
    | leaving => do
      modify back
      throw leaving
  modify back
  match status with
  | some status => Action.setStatus status
  | none => return ()

/-- Runs a command by its name and arguments. -/
def call (execute : ShellCommand → Action Unit) (name : Bytes) (args : List Bytes) : Action Unit := do
  let s ← get
  let title := String.ofList name
  let runs := runsOf execute
  match if specialCommands.contains title then none else Ordered.get? title s.functions with
  | some body => callFunction execute body args
  | none =>
    match builtin? runs title args with
    | some act => act
    | none => runProgram execute [] name args

/-- Runs a command whose first word says how the command that follows it is run. -/
def callThrough (execute : ShellCommand → Action Unit) (name : Bytes) (args : List Bytes) :
    Action Unit := do
  let s ← get
  let unnamed (args : List Bytes) : Action Unit := do
    match args with
    | [] => Action.setStatus 0
    | name :: args =>
      match builtin? (runsOf execute) (String.ofList name) args with
      | some act => act
      | none => runProgram execute [] name args
  match String.ofList name, args with
  | "command", flag :: rest =>
    if flag = ['-', 'V'] then describeAll rest
    else if flag = ['-', 'v'] then do
      Action.setStatus 0
      for arg in rest.take 1 do
        let name := String.ofList arg
        let known := (specialCommands ++ partCommands ++ reservedWords).contains name
          || (Ordered.get? name s.functions).isSome
        if known then Action.write 1 (arg ++ ['\n'])
        else match Machine.locate s.world.tree name with
          | .ok _ => Action.write 1 ("/usr/bin/".toList ++ arg ++ ['\n'])
          | .error _ => Action.setStatus 127
    else if flag = ['-', 'p'] ∨ flag = ['-', '-'] then unnamed rest
    else unnamed (flag :: rest)
  | "command", [] => Action.setStatus 0
  | "exec", command :: rest => do
    runProgram execute "exec: ".toList command rest
    throw (.ended (← Action.known (·.status)))
  | "exec", [] => Action.setStatus 0
  | _, _ => call execute name args

/-- Sets variables one after the other. What is set to what is returned. -/
def assign (runs : Runs) : List (String × ShellWord) → Action (List Bytes)
  | [] => return []
  | (name, word) :: more => do
    let value ← expandWord runs.capture word
    if (← Action.known (·.readonly.contains name)) then
      Action.fail (name.toList ++ ": is read only".toList)
    modify (·.put name value)
    return (name.toList ++ '=' :: value) :: (← assign runs more)

/-- Shows a command if that is wanted. -/
def showCommand (words : List Bytes) : Action Unit := do
  if (← Action.known (·.isOn 'x')) && !words.isEmpty then
    Action.write 2 ("+ ".toList ++ (words.intersperse [' ']).flatten ++ ['\n'])

/-- Runs a command that no other make up. -/
def simple (execute : ShellCommand → Action Unit) (settings : List (String × ShellWord))
    (words : List ShellWord) (redirections : List Redirection) : Action Unit := do
  let runs := runsOf execute
  let before ← Action.known (·.status)
  modify ({ · with captured := 0 })
  let fields ← expandWords runs.capture words
  match fields with
  | [] =>
    Action.keepingChannels do
      if ← Action.redirectAll runs redirections then
        showCommand (← assign runs settings)
        modify fun s => { s with status := s.captured }
      else Action.setStatus (← Action.known (·.manner.faultStatus))
  | name :: args =>
    let title := String.ofList name
    let special := specialCommands.contains title
    let act : Action Unit := do
      if !(← Action.redirectAll runs redirections) then
        let status ← Action.known (·.manner.faultStatus)
        if special then throw (.ended status)
        Action.setStatus status
      else if special then
        showCommand ((← assign runs settings) ++ fields)
        Action.setStatus before
        callThrough execute name args
      else
        let old ← get
        let back (_ after : Session) : Session :=
          { after with
            exported := if settings.isEmpty then after.exported else old.exported
            bindings := settings.foldl (fun bindings (name, _) =>
              match Ordered.get? name old.bindings with
              | some value => Ordered.put name value bindings
              | none => Ordered.erase name bindings) after.bindings }
        Action.restoring back do
          showCommand ((← assign runs settings) ++ fields)
          modify fun s => { s with exported := settings.map (·.1) ++ s.exported, status := before }
          callThrough execute name args
    if title = "exec" && args.isEmpty then act else Action.keepingChannels act

/-- The number of times up to which a loop is run. -/
def turnLimit : Nat := 1000000

/-- Runs a command. -/
def execute : (fuel : Nat) → ShellCommand → Action Unit
  | 0, _ => throw .exhausted
  | fuel + 1, c => do
    let runs := runsOf (execute fuel)
    let runIf (wanted : Bool) (c : ShellCommand) : Action Unit := do
      if ((← Action.known (·.status)) = 0) = wanted then execute fuel c
    match if (← get).isOn 'n' then .nothing else c with
    | .nothing => return ()
    | .simple line settings words redirections =>
      modify ({ · with line })
      simple (execute fuel) settings words redirections
      stopIfFailed
    | .sequence first second =>
      execute fuel first
      execute fuel second
    | .dependent success first second =>
      Action.whileTested (execute fuel first)
      runIf success second
    | .negated c =>
      Action.whileTested (execute fuel c)
      modify fun s => { s with status := if s.status = 0 then 1 else 0 }
    | .piped first second =>
      let place ← Action.newBuffer
      inside (execute fuel) do
        Action.lead 1 (some (.buffer place))
        execute fuel first
      let source ← Action.newSource (← Action.bufferText place)
      inside (execute fuel) do
        Action.lead 0 (some (.source source))
        execute fuel second
      stopIfFailed
    | .unattended c =>
      inside (execute fuel) do
        Action.lead 0 (some .nothing)
        execute fuel c
      modify fun s =>
        let process := s.world.processes + 1
        { s with
          unattended := some (process, s.status)
          status := 0
          world := { s.world with processes := process } }
    | .inner c =>
      inside (execute fuel) (execute fuel c)
      stopIfFailed
    | .redirected c redirections =>
      Action.keepingChannels do
        if ← Action.redirectAll runs redirections then execute fuel c
        else Action.setStatus (← Action.known (·.manner.faultStatus))
    | .branch condition yes no =>
      Action.whileTested (execute fuel condition)
      if (← Action.known (·.status)) = 0 then execute fuel yes
      else
        Action.setStatus 0
        execute fuel no
    | .loop success condition body =>
      let holds : Action Bool := do
        Action.whileTested (execute fuel condition)
        return ((← Action.known (·.status)) = 0) = success
      repeated holds (execute fuel body) turnLimit 0
    | .each name words body =>
      let fields ← match words with
        | some words => expandWords runs.capture words
        | none => Action.known (·.args)
      Action.setStatus 0
      forEach (fun word => do
        modify (·.put name word)
        execute fuel body
        return true) fields
    | .choice word cases =>
      let value ← expandWord runs.capture word
      Action.setStatus 0
      let rec choose : List (List ShellWord × ShellCommand) → Action (Option ShellCommand)
        | [] => return none
        | (patterns, body) :: rest => do
          let found ← patterns.anyM fun pattern => do
            return Pattern.accepts (charsOf (← marksOf runs.capture pattern)) value
          if found then return some body else choose rest
      match ← choose cases with
      | some body => execute fuel body
      | none => return ()
    | .definition name body =>
      modify fun s => { s with functions := Ordered.put name body s.functions, status := 0 }

end Shell

end TokenLint
