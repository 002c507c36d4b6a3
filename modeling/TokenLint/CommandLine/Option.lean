import TokenLint.Log.Settings

/-!
# Options of the command line

What can be given on the command line: one file or directory, and options. An option has a short flag, a
long one, or both. Some take a value, which for some has to be one of a few words.

## Main definitions

* `OptionName`: The options.
* `OptionSpec`: What belongs to an option.
* `OptionSpec.all`: The options in the order in which they are listed.
* `OptionSpec.find?`: The option of a flag.
-/

namespace TokenLint

namespace CommandLine

/-- The name of the program. -/
def programName : String := "lexcheck"

/-- The version of the program. -/
def version : String := "0.1.0"

/-- What the program is for. -/
def description : String := "Check Python source files with token-based rules."

/-- The options. -/
inductive OptionName where
  /-- Help is asked for. -/
  | help
  /-- The interpreter of the syntax pre-check. -/
  | interpreter
  /-- The settings file. -/
  | settingsFile
  /-- A rule to run. -/
  | rule
  /-- The number of files at a time. -/
  | workers
  /-- The syntax pre-check is left out. -/
  | noSyntaxCheck
  /-- How the outcome is written. -/
  | format
  /-- Which findings make the run fail. -/
  | failOn
  /-- Findings that may stay are listed too. -/
  | showWarnings
  /-- How log records are written. -/
  | logFormat
  /-- How much a log record has to matter. -/
  | logLevel
  /-- The rules are listed. -/
  | listRules
  /-- The version is asked for. -/
  | version
deriving DecidableEq, Repr

/-- What belongs to an option. -/
structure OptionSpec where
  /-- The option. -/
  name : OptionName
  /-- The flags, short ones first. -/
  flags : List String
  /-- What stands for its value in the help, if it takes one. -/
  value : Option String
  /-- The words that its value can be, if there are only so many. -/
  choices : List String
  /-- What it is for. -/
  purpose : String
  /-- What it is where it is not given, if the help says so. -/
  fallback : Option String
deriving DecidableEq, Repr

namespace OptionSpec

/-- An option without a value. -/
def switch (name : OptionName) (flags : List String) (purpose fallback : String) : OptionSpec :=
  ⟨name, flags, none, [], purpose, some fallback⟩

/-- An option with any value. -/
def valued (name : OptionName) (flags : List String) (value purpose : String) : OptionSpec :=
  ⟨name, flags, some value, [], purpose, some "None"⟩

/-- An option whose value is one of a few words. -/
def chosen (name : OptionName) (flags choices : List String) (purpose fallback : String) : OptionSpec :=
  ⟨name, flags, some ("\x7b" ++ Text.joinWith "," choices ++ "\x7d"), choices, purpose, some fallback⟩

/-- The options in the order in which they are listed. -/
def all : List OptionSpec := [
  ⟨.help, ["-h", "--help"], none, [], "show this help message and exit", none⟩,
  valued .interpreter ["-p", "--python"] "PYTHON"
    "Interpreter used for the syntax pre-check (default: the running interpreter).",
  valued .settingsFile ["-c", "--config"] "CONFIG"
    "Configuration file (default: lexcheck.toml, .lexcheck.toml or pyproject.toml).",
  valued .rule ["-r", "--rule"] "RULES"
    "Rule to run (repeatable). Overrides the configured rule list.",
  valued .workers ["-w", "--workers"] "WORKERS" "Number of files analysed concurrently.",
  switch .noSyntaxCheck ["--no-syntax-check"] "Skip the syntax pre-check." "None",
  chosen .format ["--format"] (Vocabulary.words OutputFormat) "Output format for the results." "text",
  chosen .failOn ["--fail-on"] (Vocabulary.words FailPolicy)
    "Which findings make the run fail (default: errors)." "None",
  switch .showWarnings ["--show-warnings"] "List warnings in the text summary, not only errors." "False",
  chosen .logFormat ["--log-format"] (Vocabulary.words LogFormat)
    "Select logging output format (human-readable text or structured JSON)." "None",
  chosen .logLevel ["--log-level"] LogSettings.levelWords
    "Set verbosity of logged events (default: warning)." "None",
  switch .listRules ["--list-rules"] "List the registered rules and exit." "False",
  switch .version ["--version"] "Print the lexcheck version and exit." "False"]

/-- The option of a flag. -/
def find? (flag : String) : Option OptionSpec := all.find? (·.flags.contains flag)

/-- All flags with their options, in the order in which they are listed. -/
def flagged : List (String × OptionSpec) := all.flatMap fun o => o.flags.map (·, o)

/-- Whether an option takes a value. -/
def takesValue (o : OptionSpec) : Bool := o.value.isSome

/-- An option as complaints name it. -/
def title (o : OptionSpec) : String := Text.joinWith "/" o.flags

/-- An option as the help shows how to give it. -/
def invocation (o : OptionSpec) : String :=
  match o.value with
  | none => Text.joinWith ", " o.flags
  | some value => Text.joinWith ", " (o.flags.map (· ++ " " ++ value))

/-- An option as the usage shows it. -/
def brief (o : OptionSpec) : String :=
  let flag := o.flags.headD ""
  match o.value with
  | none => s!"[{flag}]"
  | some value => s!"[{flag} {value}]"

/-- What an option is for, and what it is where it is not given. -/
def explanation (o : OptionSpec) : String :=
  match o.fallback with
  | none => o.purpose
  | some fallback => s!"{o.purpose} (default: {fallback})"

end OptionSpec

/-- What stands for the file or directory. -/
def pathName : String := "PATH"

/-- What the file or directory is for. -/
def pathPurpose : String := "File or directory to analyse. (default: None)"

end CommandLine

end TokenLint
