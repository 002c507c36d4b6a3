import TokenLint.Analysis.FileReport
import TokenLint.Failure.Breakdown

/-!
# Analysis

The files of a run, each put through the pipeline, and the findings about all of them in one report.
Files are looked at one after the other, each entered into the report as it finishes, or several at a
time. In that case they may finish in another order than the one they were given in; what comes of each
is kept until all have finished, and only then entered. So the report does not show the order: it lists
the files as they were given, each once, each with its findings in the order of detection.

Whoever listens is told of every file as it finishes. Some faults concern the run and not a file, such as
an interpreter that does not run, and a listener may break down. Both end the run.

## Main definitions

* `Pipeline`: The stages that files go through.
* `Pipeline.run`: One file put through them.
* `Listener`: Who is told of the files that finish.
* `Sweep`: What comes of looking at files.
* `Report.enter`: A file that has finished, put into the report.
* `Pipeline.runInTurn`: Files put through the stages one after the other.
* `Pipeline.runPool`: Files put through the stages several at a time.
* `Report.merge`: The report on files from what was kept of each.
* `analyzeWith`, `analyze`: A run, with or without a listener.
-/

namespace TokenLint

/-- The stages that files go through. -/
structure Pipeline where
  /-- The syntax pre-check, if files go through one: the report on a file, empty if the file is valid. -/
  check : Option (Path → Except Failure String)
  /-- The text of a file. -/
  read : Path → Except ReadFault (List Char)
  /-- The token stream of a text. -/
  tokenize : Path → List Char → Except TokenizeFault TokenStream
  /-- The rules in the order in which they run. -/
  rules : List Rule

namespace Pipeline

/-- The report of the syntax pre-check on a file, if there is one to make. -/
def reportOn (p : Pipeline) (path : Path) : Except Failure (Option String) :=
  match p.check with
  | none => .ok none
  | some check => (check path).map fun report => if report = "" then none else some report

/-- The stages after the syntax pre-check. -/
def runChecked (p : Pipeline) (path : Path) : Except Breakdown FileOutcome :=
  match p.read path with
  | .error (.file .unnameable) => .error (.file path .unnameable)
  | .error fault => .ok (.unreadable fault)
  | .ok source =>
    match p.tokenize path source with
    | .error (.rejected r) => .ok (.untokenizable r)
    | .error fault => .error fault.breakdown
    | .ok stream =>
      -- A rule reports about the file that its stream is of, and no other file is known here.
      if stream.path ≠ path ∧ p.rules ≠ [] then .error (.failure (.unregisteredFile stream.path))
      else .ok (.checked stream.size (Rule.runAll stream [] p.rules))

/-- One file put through the stages. -/
def run (p : Pipeline) (path : Path) : Except Breakdown FileReport := do
  match ← (p.reportOn path).mapError .failure with
  | some report => return ⟨path, .rejected report⟩
  | none => return ⟨path, ← p.runChecked path⟩

end Pipeline

/-- Who is told of the files that finish. It is given all reports so far, the newest last, and may break
down. -/
abbrev Listener := List FileReport → Option Breakdown

/-- A listener that never breaks down. -/
def Listener.silent : Listener := fun _ => none

/-- What comes of looking at files. -/
structure Sweep (α : Type) where
  /-- The files that were told of, in the order in which they finished. -/
  finished : List FileReport
  /-- The file whose stages ended the run, if one did. -/
  stoppedAt : Option Path
  /-- What was made of the files. -/
  result : Except Breakdown α

/-- What comes of a run. -/
abbrev Analysis := Sweep Report

/-- The report with a file that has finished put in. -/
def Report.enter (whole : Report) (path : Path) (ds : List Diagnostic) : Except Breakdown Report :=
  match (whole.addFile path).extend path ds with
  | (whole, none) => .ok whole
  | (_, some e) => .error (.failure (.unregisteredFile e.path))

namespace Pipeline

/-- Files put through the stages one after the other, each entered into the report as it finishes. -/
def runInTurn (p : Pipeline) (listen : Listener) (told : List FileReport) (whole : Report) :
    List Path → Analysis
  | [] => ⟨told, none, .ok whole⟩
  | path :: paths =>
    match p.run path with
    | .error b => ⟨told, some path, .error b⟩
    | .ok report =>
      match listen (told ++ [report]) with
      | some b => ⟨told ++ [report], none, .error b⟩
      | none =>
        match whole.enter path report.diagnostics with
        | .error b => ⟨told ++ [report], none, .error b⟩
        | .ok whole => p.runInTurn listen (told ++ [report]) whole paths

/-- Files put through the stages several at a time, in the order in which they finish. What comes of each
is kept by file. -/
def runPool (p : Pipeline) (listen : Listener) (told : List FileReport)
    (kept : List (Path × FileReport)) : List Path → Sweep (List (Path × FileReport))
  | [] => ⟨told, none, .ok kept⟩
  | path :: paths =>
    match p.run path with
    | .error b => ⟨told, some path, .error b⟩
    | .ok report =>
      match listen (told ++ [report]) with
      | some b => ⟨told ++ [report], none, .error b⟩
      | none => p.runPool listen (told ++ [report]) (Ordered.put report.path report kept) paths

end Pipeline

/-- The report on files from what was kept of each. Nothing is made of files when one has not finished. -/
def Report.merge (kept : List (Path × FileReport)) (whole : Report) :
    List Path → Except Breakdown Report
  | [] => .ok whole
  | path :: paths =>
    match Ordered.get? path kept with
    | none => .error (.failure (.unregisteredFile path))
    | some report =>
      match whole.enter path report.diagnostics with
      | .error b => .error b
      | .ok whole => merge kept whole paths

/-- A run over files with a number of workers, and with a listener. The files may be given repeatedly;
each is looked at once. With one worker, or one file, they finish in the order in which they were given;
otherwise in the order that `schedule` gives them. -/
def analyzeWith (listen : Listener) (p : Pipeline) (schedule : List Path → List Path) (workers : Int)
    (files : List Path) : Analysis :=
  if workers < 1 then
    ⟨[], none, .error (.failure (.invalidData s!"workers must be at least 1, got {workers}"))⟩
  else
    let paths := distinct files
    -- A single worker, or a single file, leaves nothing to chance.
    if workers = 1 ∨ paths.length ≤ 1 then p.runInTurn listen [] .empty paths
    else
      let pool := p.runPool listen [] [] (schedule paths)
      ⟨pool.finished, pool.stoppedAt, pool.result.bind fun kept => Report.merge kept .empty paths⟩

/-- A run over files with a number of workers. -/
def analyze (p : Pipeline) (schedule : List Path → List Path) (workers : Int) (files : List Path) :
    Analysis :=
  analyzeWith .silent p schedule workers files

end TokenLint
