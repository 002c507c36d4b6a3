import TokenLint.Text.Blank
import TokenLint.Text.Lower

/-!
# Vocabularies

The closed sets of words that reports, logs and options use. Each word is written in one way only and
read in any case and with blanks around it.

## Main definitions

* `Vocabulary`: What the sets have in common.
* `Vocabulary.ofWord?`: The member that a text names.
* `Vocabulary.unknown`: The report of a text that names none.
* `Severity`, `Source`, `FileStatus`, `LogFormat`, `LogComponent`, `OutputFormat`, `FailPolicy`: The sets.
-/

namespace TokenLint

/-- A closed set of words. -/
class Vocabulary (α : Type) where
  /-- The members. -/
  members : List α
  /-- The word for a member. -/
  word : α → String
  /-- What a member is. -/
  subject : String
  /-- The name of the set. -/
  label : String

namespace Vocabulary

/-- The member that a text names, in any case and with blanks around it. -/
def ofWord? {α : Type} [Vocabulary α] (raw : String) : Option α :=
  (members : List α).find? fun a => word a == Text.lower (Text.strip raw)

/-- The report of a text that names no member. -/
def unknown (α : Type) [Vocabulary α] (raw : String) : String :=
  s!"Unknown {subject α} '{raw}'"

/-- The member that a text names, or the report that there is none. -/
def ofWord {α : Type} [Vocabulary α] (raw : String) : Except String α :=
  match ofWord? raw with
  | some a => .ok a
  | none => .error (unknown α raw)

/-- The words of a vocabulary. -/
def words (α : Type) [Vocabulary α] : List String := (members : List α).map word

end Vocabulary

/-- How bad a finding is. -/
inductive Severity where
  /-- It has to be mended. -/
  | error
  /-- It may stay. -/
  | warning
deriving DecidableEq, Repr

/-- Who found something. -/
inductive Source where
  /-- A rule. -/
  | rule
  /-- The syntax pre-check. -/
  | syntaxCheck
  /-- The run, when a rule failed. -/
  | ruleFailure
  /-- The reading and splitting of the file. -/
  | tokenizer
deriving DecidableEq, Repr

/-- How a file came out. -/
inductive FileStatus where
  /-- Without an error. -/
  | passed
  /-- With an error. -/
  | failed
  /-- No rule could look at it. -/
  | syntaxError
deriving DecidableEq, Repr

/-- How log lines are written. -/
inductive LogFormat where
  /-- For people. -/
  | text
  /-- For programs. -/
  | json
deriving DecidableEq, Repr

/-- The part of the program that a log line comes from. -/
inductive LogComponent where
  /-- The analysis. -/
  | engine
  /-- The command line. -/
  | cli
  /-- The rules. -/
  | rules
  /-- The tokenizer. -/
  | tokenizer
  /-- The syntax pre-check. -/
  | syntaxCheck
  /-- The settings. -/
  | config
  /-- Everything that is shared. -/
  | services
deriving DecidableEq, Repr

/-- How the outcome of a run is written. -/
inductive OutputFormat where
  /-- For people. -/
  | text
  /-- For programs. -/
  | json
deriving DecidableEq, Repr

/-- Which findings make a run fail. -/
inductive FailPolicy where
  /-- None. -/
  | never
  /-- Errors. -/
  | errors
  /-- Errors and warnings. -/
  | warnings
deriving DecidableEq, Repr

instance : Vocabulary Severity where
  members := [.error, .warning]
  word
    | .error => "error"
    | .warning => "warning"
  subject := "severity"
  label := "SeverityLevel"

instance : Vocabulary Source where
  members := [.rule, .syntaxCheck, .ruleFailure, .tokenizer]
  word
    | .rule => "rule"
    | .syntaxCheck => "syntax"
    | .ruleFailure => "rule-failure"
    | .tokenizer => "tokenizer"
  subject := "source"
  label := "DiagnosticSource"

instance : Vocabulary FileStatus where
  members := [.passed, .failed, .syntaxError]
  word
    | .passed => "passed"
    | .failed => "failed"
    | .syntaxError => "syntax-error"
  subject := "status"
  label := "FileStatus"

instance : Vocabulary LogFormat where
  members := [.text, .json]
  word
    | .text => "text"
    | .json => "json"
  subject := "log format"
  label := "LogFormat"

instance : Vocabulary LogComponent where
  members := [.engine, .cli, .rules, .tokenizer, .syntaxCheck, .config, .services]
  word
    | .engine => "engine"
    | .cli => "cli"
    | .rules => "rules"
    | .tokenizer => "tokenizer"
    | .syntaxCheck => "syntax"
    | .config => "config"
    | .services => "services"
  subject := "log component"
  label := "LogComponent"

instance : Vocabulary OutputFormat where
  members := [.text, .json]
  word
    | .text => "text"
    | .json => "json"
  subject := "output format"
  label := "OutputFormat"

instance : Vocabulary FailPolicy where
  members := [.never, .errors, .warnings]
  word
    | .never => "never"
    | .errors => "errors"
    | .warnings => "warnings"
  subject := "fail-on policy"
  label := "FailOnPolicy"

/-- The word for a severity. -/
def Severity.word (s : Severity) : String := Vocabulary.word s

/-- The word for a source. -/
def Source.word (s : Source) : String := Vocabulary.word s

/-- The word for a status. -/
def FileStatus.word (s : FileStatus) : String := Vocabulary.word s

/-- The sign that stands for a status while a run goes on. -/
def FileStatus.glyph : FileStatus → String
  | .passed => "."
  | .failed => "F"
  | .syntaxError => "E"

end TokenLint
