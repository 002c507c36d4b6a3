import TokenLint.Diagnostic
import TokenLint.Token.Basic

/-!
# Reports

The files of a run, in the order in which they were registered, and the findings about each, in the order
in which they were added. A finding about a file that is not registered is refused. Rules do not hold the
report but a sink, which adds findings to one file only.

## Main definitions

* `Report`: Files and findings.
* `Report.addFile`, `Report.add`, `Report.extend`: Putting files and findings in.
* `Sink`: The right to add findings of one rule to one file.
* `Report.diagnostics?`: The findings about a file, or about all.
* `Report.status`: How a file came out.
* `Report.payload`: The report for programs.
-/

namespace TokenLint

/-- The files of a run and the findings about each. -/
structure Report where
  /-- The findings by file. -/
  entries : List (Path × List Diagnostic)
deriving DecidableEq, Repr

/-- A file that a report does not know. -/
structure UnknownFile where
  /-- The file. -/
  path : Path
deriving DecidableEq, Repr

/-- How the complaint about an unknown file reads. -/
def UnknownFile.text (e : UnknownFile) : String :=
  s!"File '{e.path}' has not been registered with the result"

/-- How a file with given findings came out. -/
def FileStatus.ofDiagnostics (ds : List Diagnostic) : FileStatus :=
  if ds.any fun d => d.source = .syntaxCheck || d.source = .tokenizer then .syntaxError
  else if ds.any (·.isError) then .failed
  else .passed

/-- The number of findings of each severity that occurs, in the order of occurrence. -/
def severityCounts (ds : List Diagnostic) : List (Severity × Nat) :=
  (distinct (ds.map (·.severity))).map fun s => (s, ds.countP (·.severity = s))

namespace Report

/-- The report of no files. -/
def empty : Report := ⟨[]⟩

instance : Inhabited Report := ⟨empty⟩

/-- The files, in the order of their registration. -/
def files (r : Report) : List Path := r.entries.map (·.1)

/-- The findings about a file. -/
def bucket (r : Report) (path : Path) : Except UnknownFile (List Diagnostic) :=
  match Ordered.get? path r.entries with
  | some ds => .ok ds
  | none => .error ⟨path⟩

/-- The report with a file registered. A known file stays as it is. -/
def addFile (r : Report) (path : Path) : Report :=
  if (Ordered.get? path r.entries).isSome then r else ⟨Ordered.put path [] r.entries⟩

/-- The report with findings added to a file that it knows. -/
def append (r : Report) (path : Path) (ds : List Diagnostic) : Report :=
  ⟨Ordered.modify path (· ++ ds) r.entries⟩

/-- The report with a finding added to its file. -/
def add (r : Report) (d : Diagnostic) : Except UnknownFile Report :=
  (r.bucket d.path).map fun _ => r.append d.path [d]

/-- The report with findings added to a file up to the first that is about another file, and the
complaint about that one. -/
def extend (r : Report) (path : Path) (ds : List Diagnostic) : Report × Option UnknownFile :=
  match r.bucket path with
  | .error e => (r, some e)
  | .ok _ =>
    (r.append path (ds.takeWhile (·.path = path)),
      (ds.find? (·.path ≠ path)).map fun d => ⟨d.path⟩)

/-- The findings about a file, or about all of them file by file. -/
def diagnostics? (r : Report) : Option Path → Except UnknownFile (List Diagnostic)
  | some path => r.bucket path
  | none => .ok (r.entries.flatMap (·.2))

/-- The findings that have to be mended, about a file or about all of them. -/
def errors? (r : Report) (path : Option Path) : Except UnknownFile (List Diagnostic) :=
  (r.diagnostics? path).map (·.filter (·.isError))

/-- The findings that may stay, about a file or about all of them. -/
def warnings? (r : Report) (path : Option Path) : Except UnknownFile (List Diagnostic) :=
  (r.diagnostics? path).map (·.filter (·.isWarning))

/-- All findings, file by file. -/
def all (r : Report) : List Diagnostic := r.entries.flatMap (·.2)

/-- The number of files. -/
def fileCount (r : Report) : Nat := r.entries.length

/-- The number of findings that have to be mended. -/
def errorCount (r : Report) : Nat := r.all.countP (·.isError)

/-- The number of findings that may stay. -/
def warningCount (r : Report) : Nat := r.all.countP (·.isWarning)

/-- Whether something has to be mended. -/
def hasErrors (r : Report) : Bool := r.all.any (·.isError)

/-- Whether something may stay. -/
def hasWarnings (r : Report) : Bool := r.all.any (·.isWarning)

/-- How a file came out. -/
def status (r : Report) (path : Path) : Except UnknownFile FileStatus :=
  (r.bucket path).map .ofDiagnostics

/-- One file and its findings for programs. -/
def filePayload (entry : Path × List Diagnostic) : Payload :=
  .map [(.string "path", .path entry.1),
    (.string "status", .symbol (.status (.ofDiagnostics entry.2))),
    (.string "diagnostics", .list (entry.2.map (·.payload)))]

/-- The report for programs: the totals, then the files. -/
def payload (r : Report) : Payload :=
  .map [
    (.string "summary", .map [(.string "files", .int r.fileCount), (.string "errors", .int r.errorCount),
      (.string "warnings", .int r.warningCount)]),
    (.string "files", .list (r.entries.map filePayload))]

/-- A short account of a report. -/
def describe (r : Report) : String :=
  s!"Result(files={r.fileCount}, errors={r.errorCount}, warnings={r.warningCount})"

end Report

/-- The right to add findings to one file, in the name of one rule if there is one. -/
structure Sink where
  /-- The file. -/
  path : Path
  /-- The rule. -/
  rule : Option String
deriving DecidableEq, Repr

/-- A sink for a file that a report knows. -/
def Report.sink (r : Report) (path : Path) (rule : Option String) : Except UnknownFile Sink :=
  (r.bucket path).map fun _ => ⟨path, rule⟩

namespace Sink

/-- The finding that a sink makes of a severity, a place and a message. -/
def diagnostic (s : Sink) (severity : Severity) (line column : Int) (message : String) : Diagnostic :=
  ⟨s.path, severity, line, column, message, .rule, s.rule⟩

/-- The finding about a token, at the place where a reader looks for it. -/
def tokenDiagnostic (s : Sink) (token : Token) (message : String) (severity : Severity) : Diagnostic :=
  s.diagnostic severity token.effectiveLine token.effectiveColumn message

end Sink

end TokenLint
