import TokenLint.Data.Payload
import TokenLint.Text.Utf8

/-!
# Commands

What comes of running another program: its output and exit code, or a fault of the system, which could
not start it.

## Main definitions

* `CommandOutput`: What a finished command leaves.
* `SystemFault`: Why a command was not started.
* `SystemFault.text`: How the fault reads.
* `Runner`: What runs commands.
* `Runner.run`: A run, refused where no program is named.
-/

namespace TokenLint

/-- What a finished command leaves. -/
structure CommandOutput where
  /-- The text that it wrote. -/
  stdout : String
  /-- The complaints that it wrote. -/
  stderr : String
  /-- Its exit code, negative if a signal ended it. -/
  exitCode : Int
deriving DecidableEq, Repr

/-- Why a command was not started, as the system reports it: a number, a reason, and perhaps one file or
two, or any other details. -/
structure SystemFault where
  /-- The details. -/
  details : List Payload
deriving Repr

namespace SystemFault

/-- The fault of a program that is not there. -/
def missing (program : String) : SystemFault :=
  ⟨[.int 2, .string "No such file or directory", .string program]⟩

/-- How files are listed after the reason. -/
def filesText : List Payload → String
  | file :: more =>
    match file, more with
    | .null, _ => ""
    | _, [_, .null] | _, [] | _, [_] => ": " ++ file.literal
    | _, _ :: other :: _ => ": " ++ file.literal ++ " -> " ++ other.literal
  | [] => ""

/-- The numbers of the faults of something that is still under way. -/
def pendingNumbers : List Int := [11, 114, 115]

/-- Whether a fault is that of something that is still under way and has got so far as a number says,
which then stands in the place of a file. -/
def isPending : List Payload → Bool
  | number :: _ :: .int _ :: _ | number :: _ :: .bool _ :: _ =>
    match number with
    | .int n => pendingNumbers.contains n
    | _ => false
  | _ => false

/-- How a fault reads. -/
def text (f : SystemFault) : String :=
  match f.details with
  | number :: reason :: files =>
    if 3 < files.length then Payload.jointText f.details
    else
      let files := if isPending f.details then "" else filesText files
      s!"[Errno {number.text}] {reason.text}{files}"
  | few => Payload.jointText few

end SystemFault

/-- What runs commands, each given by its program and arguments. -/
abbrev Runner := List String → Except SystemFault CommandOutput

/-- Why a run did not give an output. -/
inductive RunFault where
  /-- No program is named. -/
  | unnamed
  /-- There is a NUL character in the command. -/
  | unwritable
  /-- The program was not started. -/
  | system (f : SystemFault)
  /-- What it wrote is no text. -/
  | encoding (f : Utf8.Fault)
  /-- It does not end. -/
  | endless
deriving Repr

/-- How the fault reads. -/
def RunFault.text : RunFault → String
  | unnamed => "Command must name an executable"
  | unwritable => "embedded null byte"
  | system f => f.text
  | encoding f => f.message
  | endless => "The command does not end"

/-- The run of a command. -/
def Runner.run (runner : Runner) (command : List String) : Except RunFault CommandOutput :=
  match command with
  | [] | "" :: _ => .error .unnamed
  | _ => (runner command).mapError .system

end TokenLint
