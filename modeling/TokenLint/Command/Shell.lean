import TokenLint.Command.Basic
import TokenLint.Command.Shell.Run

/-!
# Running commands on a machine

A run of a command, from its program and arguments to its output and exit code, on a small machine with a
shell and the programs that scripts call most. It starts with no input in an empty working directory.

## Main definitions

* `Shell.run`: The run of a command.
-/

namespace TokenLint

namespace Shell

/-- The variables that a command finds. -/
def startVariables : List (String × Bytes) := [
  ("HOME", "/root".toList), ("PATH", "/usr/local/sbin:/usr/local/bin:/usr/sbin:/usr/bin:/sbin:/bin".toList),
  ("PWD", "/tmp/work".toList)]

/-- The session from which a command is run, which belongs to no shell. Its three channels are an empty
source and two buffers. -/
def firstSession : Session :=
  let channels : List (Nat × Channel) := [(0, .source 0), (1, .buffer 0), (2, .buffer 1)]
  let world : World := ⟨#[[], []], #[[]], Machine.files, 0⟩
  { (Invocation.mk [] [] [] []).session .standard channels world startVariables with process := 0 }

/-- The number of steps up to which commands may be nested. -/
def stepLimit : Nat := 100000

/-- The text that was written to a buffer. Returns count as line ends. -/
def written (s : Session) (place : Nat) : Except RunFault String :=
  let bytes := (s.world.buffers.getD place []).reverse |> Bytes.toNumbers
  ((Utf8.decode bytes).mapError .encoding).map fun cs => String.ofList (Text.universalBreaks cs)

/-- The output of a program that was started. Where a signal ended it, that is its exit code, below zero. -/
def outputOf (program : String) (command : Bytes) (args : List Bytes) : Except RunFault CommandOutput := do
  let act := startProgram (execute stepLimit) (args.length + 1) command args program
  let (result, s) := act.run firstSession
  let code ← match result with
    | .ok () => pure (s.status : Int)
    | .error (.killed _ signal) => pure (-(signal : Int))
    | .error (.ended status) | .error (.returned status) => pure (status : Int)
    | .error (.broke _) | .error (.continued _) => pure (s.status : Int)
    | .error .exhausted => throw .endless
  return ⟨← written s 0, ← written s 1, code⟩

/-- The run of a command. -/
def run (argv : List String) : Except RunFault CommandOutput :=
  match argv with
  | [] | "" :: _ => .error .unnamed
  | program :: args =>
    if argv.any (·.toList.contains '\x00') then .error .unwritable
    else match Machine.locate Machine.files program with
      | .ok found => outputOf found (Bytes.ofString program) (args.map Bytes.ofString)
      | .error fault =>
        let (number, reason) := fault.report?.getD (2, "")
        .error (.system ⟨[.int number, .string reason, .string program]⟩)

end Shell

end TokenLint
