import TokenLint.Analysis.Pipeline
import TokenLint.CommandLine.Activity
import TokenLint.CommandLine.Arguments
import TokenLint.CommandLine.Usage
import TokenLint.Lexer.Source
import TokenLint.Progress
import TokenLint.Rule.Builtin
import TokenLint.Settings.Load
import TokenLint.Summary

/-!
# Runs of the program

A run reads the command line, and then shows the version, lists the rules, or checks files. A check sets
everything up before it looks at a file: the settings, the rules, the files, and the interpreter of the
syntax pre-check. What goes wrong by then ends the run with a complaint.

The exit code is zero for a run that passes, one for a run that fails by its findings, and two for a run
that cannot be set up.

## Main definitions

* `World`: What a run finds around it.
* `exitCode`: The exit code that findings lead to.
* `setUp`, `carryOut`, `check`: A check of files.
* `run`: A run.
-/

namespace TokenLint

namespace CommandLine

/-- What a run finds around it. -/
structure World where
  /-- The files. -/
  files : FileTree
  /-- The variables of the environment. -/
  environment : List (String × String)
  /-- What runs commands. -/
  runner : Runner
  /-- The standard interpreter of the syntax pre-check. -/
  interpreter : String
  /-- The rules. -/
  registry : Registry
  /-- The order in which files finish when several are looked at at a time. -/
  schedule : List Path → List Path
  /-- How the instant of a log record reads. -/
  instant : String
  /-- How the time that something took is given in a log record. -/
  duration : Payload
  /-- How the causes without a wording of their own read. -/
  wording : Wording
  /-- The lexer. -/
  lexer : List Char → Lexing := lex
  /-- The files that are under way when another one ends a run with several workers. -/
  underWay : List Path := []

/-- What a check is made of besides its files: the world, the log settings, and the settings. -/
structure Session where
  /-- The world. -/
  world : World
  /-- The log settings. -/
  log : LogSettings

namespace Session

/-- The events of a log record. -/
def logged (s : Session) (r : LogRecord) : List Event :=
  if s.log.shows r then [.err (s.log.line r s.world.instant ++ "\n")] else []

/-- The events of a log record from a part of the program, about a file. -/
def loggedFile (s : Session) (logger : String) (component : LogComponent) (level : LogLevel)
    (path : Path) (message : String) (more : LogFields) : List Event :=
  let fields := ("component", .symbol (.logComponent component)) ::
    ("path", .string path.toString) :: more
  s.logged ⟨logger, level, message, fields⟩

/-- The numbers of findings as a field, if there are findings. -/
def countsField (ds : List Diagnostic) : LogFields :=
  match severityCounts ds with
  | [] => []
  | counts => [("counts", .map (counts.map fun (severity, n) => (.symbol (.severity severity), .int n)))]

/-- The events of the syntax pre-check of a file. -/
def checkEvents (s : Session) (i : Interpreter) (path : Path) : List Event :=
  Event.command (i.checkCommand path) ::
    match i.runner.run (i.checkCommand path) with
    | .error _ => []
    | .ok out =>
      if out.exitCode = 0 then []
      else s.loggedFile "lexcheck.syntax" .syntaxCheck .debug path s!"Syntax check failed for {path}"
        [("exit_code", .int out.exitCode), ("duration_ms", s.world.duration)]

/-- The events of a rule that failed, if it did. -/
def failureEvents (s : Session) (path : Path) (run : String × RuleRun) : List Event :=
  match run.2.fault with
  | none => []
  | some fault => s.loggedFile "lexcheck.engine" .engine .warning path
    s!"Rule '{run.1}' failed on {path}: {fault.message}" [("rule", .string run.1)]

/-- The events of the stages of a file after the syntax pre-check. -/
def stageEvents (s : Session) (path : Path) : FileOutcome → List Event
  | .rejected _ => []
  | .unreadable fault =>
    .read path :: s.loggedFile "lexcheck.engine" .engine .warning path
      s!"Cannot read {path}: {fault.message path}" []
  | .untokenizable _ => [.read path]
  | .checked size runs =>
    .read path :: s.loggedFile "lexcheck.tokenizer" .tokenizer .debug path
      s!"Tokenized {path} into {size} tokens" [] ++ runs.flatMap (s.failureEvents path)

/-- The events of a file that has finished. -/
def fileEvents (s : Session) (interpreter : Option Interpreter) (r : FileReport) : List Event :=
  (interpreter.elim [] fun i => s.checkEvents i r.path) ++ s.stageEvents r.path r.outcome ++
    s.loggedFile "lexcheck.engine" .engine .debug r.path s!"Analysed {r.path} ({r.status.word})"
      (("duration_ms", s.world.duration) :: countsField r.diagnostics)

/-- The events of files that have finished, each with its sign if signs are written. -/
def progressEvents (s : Session) (interpreter : Option Interpreter) :
    Option Progress → List FileReport → List Event
  | _, [] => []
  | none, r :: rs => s.fileEvents interpreter r ++ s.progressEvents interpreter none rs
  | some p, r :: rs =>
    let (signs, p) := p.glyph r.status.glyph
    s.fileEvents interpreter r ++ signs.map .out ++ s.progressEvents interpreter (some p) rs

/-- The log record at the end of an analysis. -/
def analysedEvents (s : Session) (report : Report) (rules : Nat) (workers : Int) : List Event :=
  s.logged ⟨"lexcheck.engine", .info, s!"Analysed {report.fileCount} files with {rules} rules",
    ("component", .symbol (.logComponent .engine)) :: ("duration_ms", s.world.duration) ::
      countsField report.all ++
        [("details", .map [(.string "workers", .int workers)])]⟩

end Session

/-- The directory in which settings are looked for. -/
def World.home (w : World) : Path := w.files.home

/-- The settings with what the command line asks for in their place. -/
def override (settings : Settings) (a : Arguments) : Settings :=
  { settings with
    interpreter := (a.interpreter.filter (· ≠ "")).or settings.interpreter
    rules := if a.rules.isEmpty then settings.rules else a.rules
    workers := a.workers.getD settings.workers
    checksSyntax := settings.checksSyntax && !a.skipsSyntaxCheck
    failOn := a.failOn.getD settings.failOn }

/-- The exit code that findings lead to under a policy. -/
def exitCode (policy : FailPolicy) (errors warnings : Bool) : Int :=
  match policy with
  | .never => 0
  | .errors => if errors then 1 else 0
  | .warnings => if errors || warnings then 1 else 0

/-- A breakdown where the value of an option is used and the option was left without one. -/
def needValue (a : Arguments) (name : OptionName) (use : ValueUse) : Activity Unit :=
  .ofResult (if a.valueless.contains name then .error (.valueless use) else .ok ())

/-- The settings that apply. -/
def loadSettings (s : Session) (a : Arguments) : Activity Settings := do
  needValue a .settingsFile .path
  let settings ← .ofResult (Settings.load s.world.files a.settingsFile s.world.home)
  let component : String × Payload := ("component", .symbol (.logComponent .config))
  match settings.source with
  | some path => .emit (s.loggedFile "lexcheck.config" .config .debug path
      s!"Loaded configuration from {path}" [])
  | none => .emit (s.logged
      ⟨"lexcheck.config", .debug, "No configuration file found; using defaults", [component]⟩)
  needValue a .failOn .word
  return override settings a

/-- The interpreter of the syntax pre-check, shown to run. -/
def startInterpreter (s : Session) (settings : Settings) : Activity (Option Interpreter) := do
  if settings.checksSyntax then
    let i := Interpreter.named s.world.interpreter settings.interpreter s.world.runner
    .emit [.command i.versionCommand]
    .ofFailing i.verify
    return some i
  else return none

/-- The stages that files go through. -/
def pipeline (w : World) (interpreter : Option Interpreter) (rules : List Rule) : Pipeline where
  check := interpreter.map fun i => i.check
  read := w.files.readSource
  tokenize := TokenStream.lexedBy w.lexer
  rules

/-- The files that are still looked at to the end when a file has ended a run. There are none if files are
looked at one after the other. -/
def stragglers (w : World) (workers : Int) (files : List Path) (analysis : Analysis) : List Path :=
  if workers = 1 ∨ (distinct files).length ≤ 1 ∨ analysis.stoppedAt.isNone then []
  else (distinct files).filter fun path =>
    w.underWay.contains path && analysis.stoppedAt ≠ some path &&
      !(analysis.finished.map (·.path)).contains path

/-- The events of a file that nobody is told of. -/
def lateEvents (s : Session) (interpreter : Option Interpreter) (p : Pipeline) (path : Path) :
    List Event :=
  match p.run path with
  | .ok r => s.fileEvents interpreter r
  | .error _ =>
    (interpreter.elim [] fun i => s.checkEvents i path) ++
      match p.reportOn path with
      | .ok none => [.read path]
      | _ => []

/-- The analysis of files, with its events. -/
def analyse (s : Session) (a : Arguments) (settings : Settings) (rules : List Rule)
    (files : List Path) (interpreter : Option Interpreter) : Activity Report := do
  needValue a .workers .number
  let p := pipeline s.world interpreter rules
  let analysis := analyze p s.world.schedule settings.workers files
  let progress := if a.format = .text then some (Progress.start Progress.defaultWidth) else none
  .emit (s.progressEvents interpreter progress analysis.finished)
  -- What ends the run is looked at as far as it goes, and what is under way by then to the end.
  let late := analysis.stoppedAt.toList ++ stragglers s.world settings.workers files analysis
  .emit (late.flatMap (lateEvents s interpreter p))
  let report ← .ofResult analysis.result
  .emit (s.analysedEvents report rules.length settings.workers)
  return report

/-- The text of the outcome. -/
def outcomeText (a : Arguments) (report : Report) : String :=
  match a.format with
  | .json => report.json ++ "\n"
  | .text => "\n\n" ++ report.summary a.showWarnings ++ "\n\n"

/-- What a check is set up with. -/
structure Setup where
  /-- The settings. -/
  settings : Settings
  /-- The rules. -/
  rules : List Rule
  /-- The files. -/
  files : List Path

/-- The setting up of a check of the files under a path, as far as nothing has to be run for it. -/
def setUp (s : Session) (a : Arguments) (path : Path) : Activity Setup := do
  let settings ← loadSettings s a
  let rules ← .ofFailing (s.world.registry.resolve settings.rules settings.ruleOptions)
  let files ← .ofResult (discover s.world.files path settings.extensions settings.exclude)
  return ⟨settings, rules, files⟩

/-- A check that is set up. -/
def carryOut (s : Session) (a : Arguments) (u : Setup) : Activity Int := do
  let interpreter ← startInterpreter s u.settings
  .emit (s.logged ⟨"lexcheck.cli", .info,
    s!"Analysing {u.files.length} files with {u.rules.length} rules", []⟩)
  let report ← analyse s a u.settings u.rules u.files interpreter
  .emit [.out (outcomeText a report)]
  return exitCode u.settings.failOn report.hasErrors report.hasWarnings

/-- A check of the files under a path. -/
def check (s : Session) (a : Arguments) (path : Path) : Activity Int := do
  carryOut s a (← setUp s a path)

/-- Text filled up with blanks to a width. -/
def padded (width : Nat) (s : String) : String := s ++ blanks (width - s.length)

/-- A line about a rule. -/
def ruleLine (d : RuleDescription) : String :=
  s!"{padded 24 d.name} {padded 8 d.severity.word} {d.summary}"

/-- The rules, listed. -/
def listRules (s : Session) : Activity Int := do
  let descriptions ← .ofFailing s.world.registry.describe
  .emit (descriptions.map fun d => .out (ruleLine d ++ "\n"))
  return 0

/-- The events of a failure that ends a run before it looks at files. -/
def failureEvents (s : Session) (f : Failure) : List Event :=
  s.logged ⟨"lexcheck.cli", .debug, "Configuration error", []⟩ ++
    [.err s!"Error [{f.code}]: {f.message s.world.wording}\n", .err usage]

/-- An activity in which failures to set up a run end it with an exit code. -/
def reported (s : Session) (x : Activity Int) : Activity Int :=
  match x.result with
  | .error (.failure f) =>
    if f.isConfiguration then ⟨x.events ++ failureEvents s f, .ok 2⟩ else x
  | _ => x

/-- The refusal of a command line. -/
def refused (complaint : String) : Activity Int :=
  ⟨[.err usage, .err s!"{programName}: error: {complaint}\n"], .ok 2⟩

/-- The log settings that a command line asks for. -/
def logRequest (w : World) (a : Arguments) : LogRequest where
  format := a.logFormat
  level := a.logLevel.map .word
  environmentFormat := Ordered.get? LogSettings.formatVariable w.environment
  environmentLevel := Ordered.get? LogSettings.levelVariable w.environment

/-- A run that has read its command line. -/
def perform (w : World) (a : Arguments) : Activity Int := do
  if a.showsVersion then
    .emit [.out s!"{programName} {version}\n"]
    return 0
  else
    let log ← .ofResult ((LogSettings.select (logRequest w a)).mapError .unknownWord)
    let s : Session := ⟨w, log⟩
    needValue a .format .word
    .emit (if a.format = .text then [.out s!"{programName.capitalize} {version}\n\n"] else [])
    if a.listsRules then reported s (listRules s)
    else match a.path with
      | some path => reported s (check s a path)
      | none => refused s!"the following arguments are required: {pathName}"

/-- A run of the program, which comes to an exit code. -/
def run (w : World) (argv : List String) : Activity Int :=
  match Arguments.read argv with
  | .ok a => perform w a
  | .error .help => ⟨[.out help], .ok 0⟩
  | .error (.refused complaint) => refused complaint

end CommandLine

end TokenLint
