import Std.Time.DateTime.Timestamp
import TokenLint.CommandLine.Run
import TokenLint.Log.Instant

/-!
# The program

The command itself. What a run may look at is read beforehand: the file or directory that is named, and
the files that may hold settings. The run is then a function of that, and its events are played back.

No command is ever started, so every interpreter counts as missing, and files have to be checked without
the syntax pre-check. Work is not timed either.

## Main definitions

* `Program.readNode`: The file or directory at a place.
* `Program.readTree`: The files that a run may look at.
* `Program.play`: The playback of events.
* `main`: The command.
-/

namespace TokenLint

namespace Program

/-- The file or directory at a place, with all that is in it. What cannot be read is left out, and so are
links to directories inside a directory. -/
partial def readNode (place : String) : IO (Option Node) := do
  let spot := (← IO.currentDir) / place
  if ← spot.isDir then
    let entries ← (← spot.readDir).toList.filterMapM fun entry => do
      let isLink := (← entry.path.symlinkMetadata).type == .symlink
      if isLink && (← entry.path.isDir) then return none
      else return (← readNode s!"{place}/{entry.fileName}").map (entry.fileName, ·)
    return some (.directory entries)
  else if ← spot.pathExists then
    try return some (.file (← IO.FS.readBinFile spot).toList)
    catch _ => return none
  else return none

/-- Steps with each step up taken together with the step before it. -/
def resolved (steps : List String) : List String :=
  steps.foldl (fun done name => if name = ".." then done.dropLast else done ++ [name]) []

/-- The absolute spelling of steps from the root. -/
def spelled (steps : List String) : String := "/" ++ Text.joinWith "/" steps

/-- The tree with what is at a path, and with the directories on the way there. -/
def addPath (home : Path) (top : Node) (path : Path) : IO Node := do
  let steps := (home.join path).steps
  let way := (List.range steps.length).map fun n => resolved (steps.take n)
  let top := way.foldl (fun node place => node.putDirectory place) top
  match ← readNode (spelled (resolved steps)) with
  | some node => return top.put (resolved steps) node
  | none => return top

/-- The paths that a run with a command line may look at. -/
def pathsOf (home : Path) (argv : List String) : List Path :=
  match CommandLine.Arguments.read argv with
  | .error _ => []
  | .ok a =>
    let settings := match a.settingsFile with
      | some path => [path]
      | none => Settings.fileNames.map home.child
    settings ++ a.path.toList

/-- The files that a run with a command line may look at. -/
def readTree (home : Path) (argv : List String) : IO FileTree := do
  return ⟨home, ← (pathsOf home argv).foldlM (addPath home) (.directory [])⟩

/-- The variables of the environment that a run asks for. -/
def readEnvironment : IO (List (String × String)) :=
  [LogSettings.formatVariable, LogSettings.levelVariable].filterMapM fun name => do
    return (← IO.getEnv name).map (name, ·)

/-- The instant at which a run starts, in words. -/
def readInstant : IO String := do
  let now ← Std.Time.Timestamp.now
  let nanoseconds := now.toNanosecondsSinceUnixEpoch.toInt
  let seconds := Binary64.ofRatio (nanoseconds < 0) nanoseconds.natAbs 1000000000
  return ((Instant.ofDecimal seconds).bind (·.text)).toOption.getD ""

/-- What a run with a command line finds around it. -/
def readWorld (argv : List String) : IO CommandLine.World := do
  let home := Path.ofString (← IO.currentDir).toString
  return {
    files := ← readTree home argv
    environment := ← readEnvironment
    runner := fun command => .error (.missing (command.headD ""))
    interpreter := "python3"
    registry := .standard
    schedule := id
    instant := ← readInstant
    duration := .int 0
    wording := .plain }

/-- The playback of an event. -/
def play : Event → IO Unit
  | .out s => IO.print s
  | .err s => IO.eprint s
  | .command _ | .read _ => return ()

end Program

end TokenLint

open TokenLint in
/-- The command: a run with the words of a command line, and its exit code. A run that breaks down has the
exit code one. -/
def main (argv : List String) : IO UInt32 := do
  let world ← Program.readWorld argv
  let run := CommandLine.run world argv
  run.events.forM Program.play
  match run.result with
  | .ok code => return code.toNat.toUInt32
  | .error b =>
    IO.eprintln (b.message world.wording)
    return 1
