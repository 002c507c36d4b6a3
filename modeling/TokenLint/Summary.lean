import TokenLint.Report

/-!
# Summaries

The report of a run for people: the files with findings to show, each with its findings and a blank line
after them, and one line with the verdict and the totals. Findings that may stay are shown on demand
only. For programs the report is JSON.

## Main definitions

* `Report.shown`: The findings about a file that a summary shows.
* `Report.summary`: The summary.
* `Report.json`: The report as JSON.
-/

namespace TokenLint

namespace Report

/-- The findings about a file that a summary shows. -/
def shown (showWarnings : Bool) (ds : List Diagnostic) : List Diagnostic :=
  if showWarnings then ds else ds.filter (·.isError)

/-- The lines of a summary about one file. -/
def fileLines (showWarnings : Bool) (entry : Path × List Diagnostic) : List String :=
  let ds := shown showWarnings entry.2
  if ds.isEmpty then [] else s!"{entry.1}:" :: ds.map (·.render) ++ [""]

/-- The verdict on a run. -/
def verdict (r : Report) : String := if r.hasErrors then "FAIL" else "OK"

/-- The last line of a summary. -/
def totals (r : Report) : String :=
  s!"{r.verdict} ({r.fileCount} files, {r.errorCount} errors, {r.warningCount} warnings)"

/-- The lines of a summary. -/
def summaryLines (r : Report) (showWarnings : Bool) : List String :=
  r.entries.flatMap (fileLines showWarnings) ++ [r.totals]

/-- The summary. -/
def summary (r : Report) (showWarnings : Bool) : String :=
  Text.joinWith "\n" (r.summaryLines showWarnings)

/-- The report as JSON. -/
def json (r : Report) : String := r.payload.dump (some 2)

end Report

end TokenLint
