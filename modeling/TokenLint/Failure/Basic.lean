import TokenLint.Failure.Kind
import TokenLint.Report
import TokenLint.Settings.Value
import TokenLint.Settings.Violation
import TokenLint.Token.Tokenize

/-!
# Failures

What the program reports by a code: which kind of failure it is, and what the case at hand was. Two
things that a failure can wrap have no fixed wording, the list of what is wrong with a table and the
fault in a settings file; how they read is left to whoever shows the failure.

## Main definitions

* `Cause`: What a failure can wrap.
* `Wording`: How wrapped causes read.
* `Failure`: The failures.
* `Failure.kind`: The kind of a failure.
* `Failure.message`: How a failure reads.
-/

namespace TokenLint

/-- What a failure can wrap. -/
inductive Cause where
  /-- A complaint in words. -/
  | text (s : String)
  /-- The values at fault in a table. -/
  | violations (vs : List Violation)
  /-- A document that is not written as it should be. -/
  | malformed
deriving DecidableEq, Repr

/-- How the causes without a wording of their own read. -/
structure Wording where
  /-- The values at fault in a table. -/
  violations : List Violation → String
  /-- A document that is not written as it should be. -/
  malformed : String

/-- Violations one after the other. -/
def Wording.plain : Wording := ⟨Violation.summary, "not a TOML document"⟩

/-- How a cause reads. -/
def Cause.message (w : Wording) : Cause → String
  | text s => s
  | violations vs => w.violations vs
  | malformed => w.malformed

/-- A failure that the program reports by a code. -/
inductive Failure where
  /-- Any failure. -/
  | general (text : String)
  /-- Data do not pass a check. -/
  | invalidData (text : String)
  /-- Data are of the wrong type. -/
  | wrongType (text : String)
  /-- A file is not part of a report. -/
  | unregisteredFile (path : Path)
  /-- The run cannot be set up. -/
  | configuration (text : String)
  /-- The settings do not pass a check. -/
  | invalidSettings (text : String)
  /-- A setting is none of the choices. -/
  | noSuchChoice (field : String) (allowed : List String)
  /-- The settings are of another version than the one that is read. -/
  | unsupportedVersion (provided expected : Setting)
  /-- A settings file cannot be read. -/
  | unreadableSettings (path : Path) (cause : Cause)
  /-- A settings file does not hold settings. -/
  | invalidSettingsFile (path : Path) (cause : Cause)
  /-- The rules cannot be made. -/
  | ruleSet (text : String)
  /-- There is no such rule. -/
  | unknownRule (name : String)
  /-- There is such a rule already. -/
  | duplicateRule (name : String)
  /-- A rule does not take its options. -/
  | invalidOptions (name : String) (cause : Cause)
  /-- There is nothing at a path. -/
  | pathNotFound (path : Path)
  /-- The interpreter of the syntax pre-check does not run. -/
  | checkerUnavailable (executable reason : String)
  /-- A rule cannot check a file. -/
  | ruleExecution (rule : String) (path : Path) (text : String)
  /-- A source cannot be split into tokens. -/
  | tokenizing (r : Rejection)
deriving Repr

/-- The complaint about a setting that is none of the choices. They are listed by code points. -/
def choiceComplaint (field : String) (allowed : List String) : String :=
  field ++ " must be one of: " ++
    Text.joinWith ", " (allowed.mergeSort fun a b => !(decide (b < a)))

namespace Failure

/-- The kind of a failure. -/
def kind : Failure → FailureKind
  | general _ => .general
  | invalidData _ => .invalidData
  | wrongType _ => .wrongType
  | unregisteredFile _ => .unregisteredFile
  | configuration _ => .configuration
  | invalidSettings _ => .invalidSettings
  | noSuchChoice _ _ => .noSuchChoice
  | unsupportedVersion _ _ => .unsupportedVersion
  | unreadableSettings _ _ => .unreadableSettings
  | invalidSettingsFile _ _ => .invalidSettingsFile
  | ruleSet _ => .ruleSet
  | unknownRule _ => .unknownRule
  | duplicateRule _ => .duplicateRule
  | invalidOptions _ _ => .invalidOptions
  | pathNotFound _ => .pathNotFound
  | checkerUnavailable _ _ => .checkerUnavailable
  | ruleExecution _ _ _ => .ruleExecution
  | tokenizing _ => .tokenizing

/-- The code of a failure. -/
def code (f : Failure) : String := f.kind.code

/-- Whether a failure ends a run before any file is looked at. -/
def isConfiguration (f : Failure) : Bool := f.kind.isConfiguration

/-- How a failure reads. -/
def message (w : Wording) : Failure → String
  | general text | invalidData text | wrongType text | configuration text | invalidSettings text
  | ruleSet text => text
  | unregisteredFile path => UnknownFile.text ⟨path⟩
  | noSuchChoice field allowed => choiceComplaint field allowed
  | unsupportedVersion provided expected =>
    s!"Unsupported config_version {provided.text}; expected {expected.text}"
  | unreadableSettings path cause => s!"Unable to read {path}: {cause.message w}"
  | invalidSettingsFile path cause => s!"Invalid lexcheck configuration in {path}: {cause.message w}"
  | unknownRule name => s!"Unknown rule '{name}'"
  | duplicateRule name => s!"Rule '{name}' is already registered"
  | invalidOptions name cause => s!"Invalid options for rule '{name}': {cause.message w}"
  | pathNotFound path => s!"Path '{path}' does not exist"
  | checkerUnavailable executable reason => s!"Cannot run syntax checker '{executable}': {reason}"
  | ruleExecution rule path text => s!"Rule '{rule}' failed on {path}: {text}"
  | tokenizing r => r.text

/-- What is wrong with the values that a failure is about. -/
def violations? : Failure → Option (List Violation)
  | unreadableSettings _ (.violations vs) | invalidSettingsFile _ (.violations vs)
  | invalidOptions _ (.violations vs) => some vs
  | _ => none

end Failure

end TokenLint
