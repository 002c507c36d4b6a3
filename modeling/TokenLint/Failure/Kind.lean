/-!
# Kinds of failures

The failures that the program reports by a code. A kind may be a special case of others, which its
lineage lists from the kind itself to the most general.

## Main definitions

* `FailureKind`: The kinds.
* `FailureKind.code`: The code of a kind, which never changes.
* `FailureKind.lineage`: What a kind is a special case of.
* `FailureKind.catalog`: All names and codes.
-/

namespace TokenLint

/-- The kinds of failures. -/
inductive FailureKind where
  /-- Any failure. -/
  | general
  /-- Data do not pass a check. -/
  | invalidData
  /-- Data are of the wrong type. -/
  | wrongType
  /-- A file is not part of a report. -/
  | unregisteredFile
  /-- The run cannot be set up. -/
  | configuration
  /-- The settings do not pass a check. -/
  | invalidSettings
  /-- A setting is none of the choices. -/
  | noSuchChoice
  /-- The settings are of another version. -/
  | unsupportedVersion
  /-- A settings file cannot be read. -/
  | unreadableSettings
  /-- A settings file does not hold settings. -/
  | invalidSettingsFile
  /-- The rules cannot be made. -/
  | ruleSet
  /-- There is no such rule. -/
  | unknownRule
  /-- There is such a rule already. -/
  | duplicateRule
  /-- A rule does not take its options. -/
  | invalidOptions
  /-- There is nothing at a path. -/
  | pathNotFound
  /-- The interpreter of the syntax pre-check does not run. -/
  | checkerUnavailable
  /-- A rule cannot check a file. -/
  | ruleExecution
  /-- A source cannot be split into tokens. -/
  | tokenizing
deriving DecidableEq, Repr

namespace FailureKind

/-- All kinds, in the order of the catalog. -/
def all : List FailureKind := [
  general, invalidData, wrongType, unregisteredFile, configuration, invalidSettings, noSuchChoice,
  unsupportedVersion, unreadableSettings, invalidSettingsFile, ruleSet, unknownRule, duplicateRule,
  invalidOptions, pathNotFound, checkerUnavailable, ruleExecution, tokenizing]

/-- The code of a kind. -/
def code : FailureKind → String
  | general => "LX000"
  | invalidData => "LX100"
  | wrongType => "LX101"
  | unregisteredFile => "LX102"
  | configuration => "LX200"
  | invalidSettings => "LX210"
  | noSuchChoice => "LX211"
  | unsupportedVersion => "LX212"
  | unreadableSettings => "LX213"
  | invalidSettingsFile => "LX214"
  | ruleSet => "LX220"
  | unknownRule => "LX221"
  | duplicateRule => "LX222"
  | invalidOptions => "LX223"
  | pathNotFound => "LX230"
  | checkerUnavailable => "LX240"
  | ruleExecution => "LX300"
  | tokenizing => "LX301"

/-- The name of a kind. -/
def name : FailureKind → String
  | general => "LexcheckError"
  | invalidData => "LexcheckValidationError"
  | wrongType => "LexcheckTypeError"
  | unregisteredFile => "UnregisteredFileError"
  | configuration => "ConfigurationError"
  | invalidSettings => "ConfigValidationError"
  | noSuchChoice => "ConfigFieldChoiceError"
  | unsupportedVersion => "UnsupportedConfigVersionError"
  | unreadableSettings => "ConfigReadError"
  | invalidSettingsFile => "InvalidConfigFileError"
  | ruleSet => "RuleConfigurationError"
  | unknownRule => "UnknownRuleError"
  | duplicateRule => "DuplicateRuleError"
  | invalidOptions => "InvalidRuleOptionsError"
  | pathNotFound => "PathNotFoundError"
  | checkerUnavailable => "SyntaxCheckerUnavailableError"
  | ruleExecution => "RuleExecutionError"
  | tokenizing => "TokenizeError"

/-- The part of the program that a kind belongs to, as the catalog names it. -/
def area : FailureKind → String
  | general | invalidData | wrongType | configuration => "lexcheck._internal.exceptions"
  | unregisteredFile => "lexcheck.result"
  | invalidSettings | noSuchChoice | unsupportedVersion | unreadableSettings | invalidSettingsFile =>
    "lexcheck.config.models"
  | ruleSet | unknownRule | duplicateRule | invalidOptions => "lexcheck.rules.registry"
  | pathNotFound => "lexcheck.discovery"
  | checkerUnavailable => "lexcheck.syntax"
  | ruleExecution => "lexcheck.rules.base"
  | tokenizing => "lexcheck.tokens.tokenizer"

/-- What a kind is a special case of, besides itself. -/
def ancestors : FailureKind → List FailureKind
  | general => []
  | invalidData | wrongType | configuration | ruleExecution | tokenizing => [general]
  | unregisteredFile => [invalidData, general]
  | invalidSettings => [configuration, invalidData, general]
  | noSuchChoice | unsupportedVersion | unreadableSettings | invalidSettingsFile =>
    [invalidSettings, configuration, invalidData, general]
  | ruleSet => [configuration, general]
  | unknownRule | duplicateRule | invalidOptions => [ruleSet, configuration, general]
  | pathNotFound | checkerUnavailable => [configuration, general]

/-- A kind and what it is a special case of, from the special to the general. -/
def lineage (k : FailureKind) : List FailureKind := k :: k.ancestors

/-- Whether a failure of a kind ends a run before any file is looked at. -/
def isConfiguration (k : FailureKind) : Bool := k.lineage.contains configuration

/-- The full name of a kind. -/
def fullName (k : FailureKind) : String := k.area ++ "." ++ k.name

/-- All full names with their codes. -/
def catalog : List (String × String) := all.map fun k => (k.fullName, k.code)

end FailureKind

end TokenLint
