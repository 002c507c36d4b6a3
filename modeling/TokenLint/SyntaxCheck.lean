import TokenLint.Command.Basic
import TokenLint.Failure.Basic

/-!
# The syntax pre-check

Before a file is split into tokens, an interpreter compiles it. A file that does not compile has a report,
of which the first line is what the user sees. The interpreter need not be the one that the program
came with, so that files are held to the grammar of their own version of the language.

## Main definitions

* `firstLine`: The part of a report that the user sees.
* `Interpreter`: An interpreter that can be run.
* `Interpreter.verify`: Whether it runs at all.
* `Interpreter.check`: What it reports of a file, and nothing if the file is valid.
-/

namespace TokenLint

namespace SyntaxCheck

/-- What a report without a first line says. -/
def fallbackReport : String := "Syntax check failed"

/-- A report up to its first line end. -/
def firstLine (report : String) : String :=
  let line := Text.dropReturn (report.toList.takeWhile (· != '\n'))
  if line.isEmpty then fallbackReport else String.ofList line

/-- The program that the interpreter runs on a file. -/
def snippet : String :=
  Text.joinWith "\n" [
    "import sys",
    "path = sys.argv[1]",
    "try:",
    "    with open(path, \"rb\") as handle:",
    "        compile(handle.read(), path, \"exec\", dont_inherit=True)",
    "except (SyntaxError, ValueError) as exc:",
    "    message = getattr(exc, \"msg\", None) or str(exc)",
    "    line = getattr(exc, \"lineno\", None) or 0",
    "    print(\"%s: %s in %s on line %s\" % (type(exc).__name__, message, path, line))",
    "    sys.exit(1)",
    ""]

/-- The text, or another one if it is empty. -/
def orElse (s other : String) : String := if s = "" then other else s

end SyntaxCheck

/-- An interpreter that can be run. -/
structure Interpreter where
  /-- Its program. -/
  executable : String
  /-- What runs it. -/
  runner : Runner

namespace Interpreter

/-- The interpreter that a name stands for, where an empty name or none stands for a standard one. -/
def named (standard : String) (name : Option String) (runner : Runner) : Interpreter :=
  ⟨SyntaxCheck.orElse (name.getD "") standard, runner⟩

/-- The command that shows whether the interpreter runs. -/
def versionCommand (i : Interpreter) : List String := [i.executable, "--version"]

/-- The command that compiles a file. -/
def checkCommand (i : Interpreter) (path : Path) : List String :=
  [i.executable, "-c", SyntaxCheck.snippet, path.toString]

/-- The output of a command. Where it cannot be run, no file can be checked. -/
def output (i : Interpreter) (command : List String) : Except Failure CommandOutput :=
  (i.runner.run command).mapError fun fault => .checkerUnavailable i.executable fault.text

/-- A failure unless the interpreter runs. -/
def verify (i : Interpreter) : Except Failure Unit := do
  let out ← i.output i.versionCommand
  if out.exitCode = 0 then return ()
  let reason := SyntaxCheck.firstLine (SyntaxCheck.orElse out.stderr out.stdout)
  throw (.checkerUnavailable i.executable reason)

/-- The report on an output of the command that compiles a file. -/
def report (out : CommandOutput) : String :=
  if out.exitCode = 0 then ""
  else SyntaxCheck.orElse (Text.strip (SyntaxCheck.orElse out.stdout out.stderr))
    SyntaxCheck.fallbackReport

/-- The report on a file, which is empty if the file is valid. -/
def check (i : Interpreter) (path : Path) : Except Failure String :=
  (i.output (i.checkCommand path)).map report

/-- A short account of an interpreter. -/
def describe (i : Interpreter) : String :=
  s!"PythonSyntaxChecker(executable={Text.quoted i.executable})"

end Interpreter

end TokenLint
