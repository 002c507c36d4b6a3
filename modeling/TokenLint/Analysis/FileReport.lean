import TokenLint.FileTree
import TokenLint.Report
import TokenLint.Rule.Basic
import TokenLint.SyntaxCheck
import TokenLint.Token.Tokenize

/-!
# What comes of one file

A file goes through stages: the syntax pre-check, reading, splitting into tokens, and the rules. Each
stage can end it. What goes wrong with one file is a finding about that file, so that the run goes on.

Every rule gets the same stream, from its first token on, and a rule that fails keeps the findings that
it has reported and gets one more, about its failure.

## Main definitions

* `FileOutcome`: Which stage a file got to and what came of it.
* `FileOutcome.diagnostics`: The findings about the file.
* `RuleRun.diagnostics`: The findings of a rule.
* `FileReport`: A file and its findings.
-/

namespace TokenLint

/-- Which stage a file got to and what came of it. -/
inductive FileOutcome where
  /-- The syntax pre-check has a report on it. -/
  | rejected (report : String)
  /-- It cannot be read. -/
  | unreadable (fault : ReadFault)
  /-- It cannot be split into tokens. -/
  | untokenizable (r : Rejection)
  /-- The rules have looked at it: how many tokens it has, and each rule's name and what came of it. -/
  | checked (size : Nat) (runs : List (String × RuleRun))
deriving Repr

/-- The finding of a rule about a file. -/
def Finding.diagnostic (path : Path) (rule : String) (f : Finding) : Diagnostic :=
  Sink.diagnostic ⟨path, some rule⟩ f.severity f.line f.column f.message

/-- A finding about a file as a whole, which has to be mended. -/
def Diagnostic.ofFile (path : Path) (source : Source) (rule : Option String) (message : String) :
    Diagnostic :=
  ⟨path, .error, 0, 0, message, source, rule⟩

/-- The finding about the failure of a rule. -/
def RuleFault.diagnostic (path : Path) (rule : String) (f : RuleFault) : Diagnostic :=
  .ofFile path .ruleFailure (some rule) s!"Rule '{rule}' failed: {f.message}"

/-- The findings of a rule about a file: what it reported, and its failure if it failed. -/
def RuleRun.diagnostics (path : Path) (rule : String) (run : RuleRun) : List Diagnostic :=
  run.findings.map (·.diagnostic path rule) ++ (run.fault.map (·.diagnostic path rule)).toList

/-- The finding about a source that cannot be split into tokens. -/
def Rejection.diagnostic (path : Path) (r : Rejection) : Diagnostic where
  path
  severity := .error
  line := r.line
  column := if 0 < r.line then 1 else 0
  message := s!"Cannot tokenize file: {r.message}"
  source := .tokenizer
  rule := none

/-- The findings about a file. -/
def FileOutcome.diagnostics (path : Path) : FileOutcome → List Diagnostic
  | rejected report => [.ofFile path .syntaxCheck none (SyntaxCheck.firstLine report)]
  | unreadable fault => [.ofFile path .tokenizer none s!"Cannot read file: {fault.message path}"]
  | untokenizable r => [r.diagnostic path]
  | checked _ runs => runs.flatMap fun (rule, run) => run.diagnostics path rule

/-- A file that has been looked at. -/
structure FileReport where
  /-- The file. -/
  path : Path
  /-- What came of it. -/
  outcome : FileOutcome
deriving Repr

namespace FileReport

/-- The findings about the file. -/
def diagnostics (r : FileReport) : List Diagnostic := r.outcome.diagnostics r.path

/-- How the file came out. -/
def status (r : FileReport) : FileStatus := .ofDiagnostics r.diagnostics

end FileReport

end TokenLint
