import TokenLint.Command.Utility.Condition
import TokenLint.Command.Utility.Expression
import TokenLint.Command.Utility.Filter
import TokenLint.Command.Utility.Writing
import TokenLint.FileTree

/-!
# A machine

A small machine on which commands can be run: its files, and the programs among them. A program is a file
that holds a mark and the name of the program. A command that is named by a path is the file there; any
other is looked for in some directories.

## Main definitions

* `Machine.files`: The files of the machine.
* `Machine.StartFault`: Why a program is not started.
* `Machine.locate`: The program that a command names.
* `Machine.perform`: What a program does.
-/

namespace TokenLint

namespace Machine

/-- The programs that are shells. -/
def shells : List String := ["sh", "dash", "bash"]

/-- The programs that start another one. -/
def starters : List String := ["env"]

/-- The programs that change their input. -/
def filters : List String := ["cat", "head", "tail", "wc", "tr", "sort", "uniq"]

/-- The other programs. -/
def plainPrograms : List String :=
  ["true", "false", "echo", "printf", "test", "[", "expr", "seq", "sleep", "basename", "dirname", "pwd",
    "ls", "yes"]

/-- The byte that a program starts with. -/
def programMark : UInt8 := 0x7F

/-- The file of a program. -/
def programFile (name : String) : Node := .file (programMark :: name.toUTF8.toList)

/-- The directory with the programs. -/
def programFolder : Node :=
  .directory ((shells ++ starters ++ filters ++ plainPrograms).map fun name => (name, programFile name))

/-- The files of the machine. -/
def files : FileTree where
  home := ⟨"/", ["tmp", "work"]⟩
  top := .directory [
    ("bin", programFolder), ("usr", .directory [("bin", programFolder), ("lib", .directory []),
      ("local", .directory [("bin", .directory [])])]),
    ("dev", .directory [("null", .file [])]),
    ("etc", .directory [("passwd", .file []), ("hosts", .file [])]),
    ("home", .directory []), ("lib", .directory []), ("opt", .directory []), ("proc", .directory []),
    ("root", .directory []), ("tmp", .directory [("work", .directory [])]), ("var", .directory [])]

/-- The path that a text names. It makes no difference how many slashes it starts with. -/
def pathOf (name : Bytes) : Path :=
  let slashes := name.takeWhile (· == '/')
  .ofString (String.ofList (if slashes.isEmpty then name else '/' :: name.drop slashes.length))

/-- The directories in which programs are looked for. -/
def searchPath : List Path :=
  [⟨"/", ["usr", "local", "bin"]⟩, ⟨"/", ["usr", "bin"]⟩, ⟨"/", ["bin"]⟩]

/-- Why a program is not started. -/
inductive StartFault where
  /-- There is no such file. -/
  | file (fault : FileFault)
  /-- It is no program. -/
  | refused
deriving DecidableEq, Repr

/-- The number that systems give the fault and how they word it, if it gets as far as the system. -/
def StartFault.report? : StartFault → Option (Nat × String)
  | file fault => fault.report?
  | refused => some (13, "Permission denied")

/-- Whether the search goes on after the fault and forgets it. -/
def StartFault.isAbsence : StartFault → Bool
  | file .missing | file .notDirectory => true
  | _ => false

/-- The program at a path, which may have to be a directory. -/
def programAt (tree : FileTree) (path : Path) (slashed : Bool) : Except StartFault String := do
  match ← (tree.find path).mapError .file with
  | .file (mark :: name) =>
    if slashed then throw (.file .notDirectory)
    else if mark = programMark then return String.ofList (Bytes.ofNumbers name)
    else throw .refused
  | .file [] => throw (if slashed then .file .notDirectory else .refused)
  | .directory _ => throw .refused

/-- The program that a name stands for in some directories. A fault counts more than that there is no such
file. -/
def search (tree : FileTree) (name : String) : StartFault → List Path → Except StartFault String
  | fault, [] => .error fault
  | fault, folder :: folders =>
    match programAt tree (folder.join (.ofString name)) false with
    | .ok program => .ok program
    | .error other => search tree name (if other.isAbsence then fault else other) folders

/-- The program that a command names. -/
def locate (tree : FileTree) (command : String) : Except StartFault String :=
  if command.toList.contains '/' then
    programAt tree (pathOf command.toList) (command.toList.getLast? = some '/')
  else search tree command (.file .missing) searchPath

/-- The answers to questions about files. -/
def answers (tree : FileTree) : Utility.Condition.FileAnswer := fun sign name =>
  let isNull := String.ofList name = "/dev/null"
  match tree.find (pathOf name) with
  | .error _ => false
  | .ok node =>
    match sign, node with
    | "-e", _ | "-r", _ | "-w", _ | "-O", _ | "-G", _ => !name.isEmpty
    | "-f", .file _ => !isNull
    | "-d", .directory _ => !name.isEmpty
    | "-s", .file bytes => !bytes.isEmpty
    | "-s", .directory _ => true
    | "-x", .file bytes => bytes.head? = some programMark
    | "-x", .directory _ => true
    | "-c", _ => isNull
    | _, _ => false

/-- How a program words that it cannot read a file. -/
def readingFault (program : String) (name : Bytes) (fault : FileFault) : Bytes :=
  let reason := ((fault.report?.map (·.2)).getD "").toList
  match program, fault with
  | "head", .isDirectory | "tail", .isDirectory =>
    "error reading '".toList ++ name ++ "': ".toList ++ reason
  | "head", _ | "tail", _ => "cannot open '".toList ++ name ++ "' for reading: ".toList ++ reason
  | "sort", .isDirectory => "read failed: ".toList ++ name ++ ": ".toList ++ reason
  | "sort", _ => "cannot read: ".toList ++ name ++ ": ".toList ++ reason
  | _, _ => name ++ ": ".toList ++ reason

/-- The bytes of the files that a program is given, or of its input if it is given none, with its
complaints about the others. -/
def contents (tree : FileTree) (who : Utility.Speaker) (program : String) (names : List Bytes)
    (input : Bytes) : Utility.Effect :=
  if names.isEmpty then .wrote input
  else names.foldl (fun effect name =>
    if name = ['-'] then { effect with out := effect.out ++ input }
    else match tree.read (pathOf name) with
      | .ok bytes => { effect with out := effect.out ++ Bytes.ofNumbers bytes }
      | .error fault =>
        let line := who.line (readingFault program name fault)
        { effect with err := effect.err ++ line, status := if program = "sort" then 2 else 1 })
    (.wrote [])

/-- The arguments of a program that are flags or belong to one that counts lines, and the others. -/
def splitFlags (counts : Bool) : List Bytes → List Bytes × List Bytes
  | ['-', 'n'] :: count :: rest =>
    if counts then ([['-', 'n'], count], rest) else ([['-', 'n']], count :: rest)
  | arg :: rest =>
    if arg.head? = some '-' && 1 < arg.length then
      let (flags, rest) := splitFlags counts rest
      (arg :: flags, rest)
    else ([], arg :: rest)
  | [] => ([], [])

/-- What a program that changes its input does. -/
def filter (tree : FileTree) (who : Utility.Speaker) (program : String) (args : List Bytes)
    (input : Bytes) : Utility.Effect :=
  if program = "tr" then Utility.tr who args input
  else
    let (flags, names) := splitFlags (program = "head" || program = "tail") args
    let read := contents tree who program names input
    let made := match program with
      | "head" => Utility.head flags read.out
      | "tail" => Utility.tail flags read.out
      | "wc" =>
        let counted := Utility.wc flags read.out
        if names.isEmpty then counted
        else if read.status ≠ 0 && read.out.isEmpty then .wrote []
        else .wrote (counted.out.dropLast ++ [' '] ++ Utility.spaced names ++ ['\n'])
      | "sort" => Utility.sort flags read.out
      | "uniq" => Utility.uniq read.out
      | _ => .wrote read.out
    { made with err := read.err, status := read.status }

/-- The names of files and of what is in directories, one to a line. -/
def list (tree : FileTree) (who : Utility.Speaker) (args : List Bytes) : Utility.Effect :=
  let names := args.filter (·.head? != some '-')
  let all := (args.filter (·.head? = some '-')).flatten.contains 'a'
  let many := 1 < names.length
  let paths := (if names.isEmpty then [['.']] else names).mergeSort fun a b => !(b < a)
  let inside (entries : List (String × Node)) : Bytes :=
    let shown := (entries.map (·.1.toList)).filter fun name => all || name.head? != some '.'
    let shown := (if all then [['.'], ['.', '.']] else []) ++ shown.mergeSort fun a b => !(b < a)
    shown.flatMap (· ++ ['\n'])
  let files := paths.filter fun path => (tree.read (pathOf path)).isOk
  let start : Utility.Effect := .wrote (files.flatMap (· ++ ['\n']))
  paths.foldl (fun effect path =>
    match tree.find (pathOf path) with
    | .ok (.file _) => effect
    | .ok (.directory entries) =>
      let gap := if many && !effect.out.isEmpty then ['\n'] else []
      let heading := if many then path ++ ":\n".toList else []
      { effect with out := effect.out ++ gap ++ heading ++ inside entries }
    | .error fault =>
      let reason := ((fault.report?.map (·.2)).getD "").toList
      let line := who.line ("cannot access '".toList ++ path ++ "': ".toList ++ reason)
      { effect with err := effect.err ++ line, status := 2 }) start

/-- Whether an argument is an amount of time. -/
def isDuration (arg : Bytes) : Bool :=
  let body := if arg.getLast?.any "smhd".toList.contains then arg.dropLast else arg
  (body.head?.any fun c => c.isDigit || c == '.') && (Number.readDecimal? (String.ofList body)).isSome

/-- How often the program that repeats its arguments without end does so, which is more than is read. -/
def yesCount : Nat := 4096

/-- What a program does, apart from shells. -/
def perform (tree : FileTree) (who : Utility.Speaker) (program : String) (args : List Bytes)
    (input : Bytes) : Utility.Effect :=
  match program with
  | "true" => .wrote []
  | "false" => .answered false
  | "echo" => Utility.echo who args
  | "printf" => Utility.printf who args
  | "test" => Utility.Condition.test who (answers tree) false args
  | "[" => Utility.Condition.test who (answers tree) true args
  | "expr" => Utility.Expression.expr who args
  | "seq" => Utility.seq who args
  | "basename" => Utility.basename who args
  | "dirname" => Utility.dirname who args
  | "ls" => list tree who args
  | "yes" =>
    let line := Utility.spaced (if args.isEmpty then [['y']] else args) ++ ['\n']
    .wrote (List.replicate yesCount line).flatten
  | "pwd" => .wrote (tree.home.toString.toList ++ ['\n'])
  | "sleep" =>
    if args.isEmpty then who.needOperand 1
    else match args.find? (!isDuration ·) with
      | some arg => who.refuse ("invalid time interval ".toList ++ Utility.quote arg) 1
      | none => .wrote []
  | _ => filter tree who program args input

end Machine

end TokenLint
