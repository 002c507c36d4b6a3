import TokenLint.Proofs.Data.Grammar
import TokenLint.Proofs.Report.Count
import TokenLint.Proofs.Text.Line
import TokenLint.Summary

/-!
# Summaries Line by Line

A summary is written file by file and its last line is counted over the whole
report. That the two agree is the same fact as for the other counts: no file is
listed twice, so the findings that are listed file by file are the findings of
the report, each once, and there is one line for each of them.

Where a summary is read line by line, a file or a message with a line feed in it
could pass for several lines. Nothing else that is written has one: what is put
around a message is a word of the vocabulary and numbers.

## Main definitions

* `Counts`: The totals of a report.
* `Report.selected`: The findings about a file that a summary lists.
* `Report.selectedFiles`: The files that it lists.
* `Report.block`: The lines about such a file.

## Theorems

* `Diagnostic.newline_not_mem_render`: A finding is written in one line.
* `Report.totals_eq`: Where the totals stand.
* `Report.summaryLines_eq`: The lines are blocks of files, and the totals.
* `Report.flatMap_selected`: The blocks list every finding once.
* `Report.summary_lists`: What a summary says, read line by line.
-/

namespace TokenLint

/-- The totals of a report. -/
structure Counts where
  /-- The number of files. -/
  files : Nat
  /-- The number of findings that have to be mended. -/
  errors : Nat
  /-- The number of findings that may stay. -/
  warnings : Nat
deriving DecidableEq, Repr

/-- The totals of a report. -/
def Report.counts (r : Report) : Counts := ⟨r.fileCount, r.errorCount, r.warningCount⟩

namespace Counts

/-- The line with the verdict and the totals. The verdict goes by the errors alone. -/
def line (c : Counts) : String :=
  let verdict := if 0 < c.errors then "FAIL" else "OK"
  s!"{verdict} ({c.files} files, {c.errors} errors, {c.warnings} warnings)"

end Counts

/-- Whether a summary lists the finding: all of them, or those that have to be mended. -/
def Diagnostic.isSelected (showWarnings : Bool) (d : Diagnostic) : Bool := showWarnings || d.isError

namespace Report

/-- The findings about a file that a summary lists, in the order in which they were added. -/
def selected (r : Report) (showWarnings : Bool) (path : Path) : List Diagnostic :=
  (r.findings path).filter (·.isSelected showWarnings)

/-- The files that have such findings, in the order of their registration. -/
def selectedFiles (r : Report) (showWarnings : Bool) : List Path :=
  r.files.filter fun path => (r.findings path).any (·.isSelected showWarnings)

/-- The lines about a file: its name, the findings, and an empty line. -/
def block (r : Report) (showWarnings : Bool) (path : Path) : List String :=
  (path.toString ++ ":") :: (r.selected showWarnings path).map (·.render) ++ [""]

end Report

section LineFeeds

theorem newline_not_mem_toString (n : Int) : '\n' ∉ (toString n).toList :=
  fun hmem => absurd (Json.isInline_toString n _ hmem) (by decide)

/-- A finding is written in one line if its message is one. -/
theorem Diagnostic.newline_not_mem_render {d : Diagnostic} (h : '\n' ∉ d.message.toList) :
    '\n' ∉ d.render.toList := by
  have hword : '\n' ∉ d.severity.word.capitalize.toList := by
    cases d.severity <;> decide
  rw [render]
  split
  · exact h
  · simp only [String.toList_append, List.mem_append, not_or]
    exact ⟨⟨⟨⟨⟨⟨⟨by decide, newline_not_mem_toString _⟩, by decide⟩, newline_not_mem_toString _⟩,
      by decide⟩, hword⟩, by decide⟩, h⟩

theorem Counts.newline_not_mem_line (c : Counts) : '\n' ∉ c.line.toList := by
  have hnumber : ∀ n : Nat, '\n' ∉ (toString n).toList := fun n => newline_not_mem_toString n
  have hverdict : '\n' ∉ (if 0 < c.errors then "FAIL" else "OK").toList := by
    split <;> decide
  simp only [line, String.toList_append, List.mem_append, not_or]
  exact ⟨⟨⟨⟨⟨⟨⟨hverdict, by decide⟩, hnumber _⟩, by decide⟩, hnumber _⟩, by decide⟩, hnumber _⟩,
    by decide⟩

end LineFeeds

namespace Report

variable {r : Report} (showWarnings : Bool)

/-- What a summary shows of findings are those that it lists. -/
theorem shown_eq (ds : List Diagnostic) :
    shown showWarnings ds = ds.filter (·.isSelected showWarnings) := by
  cases showWarnings with
  | true => exact (List.filter_eq_self.mpr fun _ _ => rfl).symm
  | false => rfl

/-- Files that are not listed have nothing that is. -/
theorem flatMap_selectedFiles {β : Type} (f : Path → List β) :
    (r.selectedFiles showWarnings).flatMap f =
      r.files.flatMap fun path => if (r.selected showWarnings path).isEmpty then [] else f path := by
  rw [selectedFiles]
  induction r.files with
  | nil => rfl
  | cons path paths ih =>
      have hempty : (r.selected showWarnings path).isEmpty =
          !(r.findings path).any (·.isSelected showWarnings) := by
        rw [selected, Bool.eq_iff_iff, List.isEmpty_iff, List.filter_eq_nil_iff, Bool.not_eq_true',
          List.any_eq_false]
      rw [List.filter_cons, List.flatMap_cons, ← ih, hempty]
      cases (r.findings path).any (·.isSelected showWarnings) <;> rfl

theorem totals_eq (r : Report) : r.totals = r.counts.line := by
  rw [totals, verdict, hasErrors_eq]
  simp only [decide_eq_true_eq]
  rfl

/-- The lines of a summary are the blocks of the files that it lists, and the last one. -/
theorem summaryLines_eq (h : r.files.Nodup) :
    r.summaryLines showWarnings =
      (r.selectedFiles showWarnings).flatMap (r.block showWarnings) ++
        [r.counts.line] := by
  rw [summaryLines, totals_eq, flatMap_selectedFiles]
  conv => lhs; rw [entries_eq h]
  rw [List.flatMap_map]
  congr 1
  refine List.flatMap_congr fun path _ => ?_
  simp only [fileLines, shown_eq]
  rfl

/-- The findings that are listed with the files are those of the report, each once. -/
theorem flatMap_selected (h : r.files.Nodup) :
    (r.selectedFiles showWarnings).flatMap (r.selected showWarnings) =
      r.all.filter (·.isSelected showWarnings) := by
  rw [flatMap_selectedFiles, all_eq h, List.filter_flatMap]
  refine List.flatMap_congr fun path _ => ?_
  split
  · rename_i hempty
    exact (List.isEmpty_iff.mp hempty).symm
  · rfl

theorem length_selected : (r.all.filter (·.isSelected showWarnings)).length =
    if showWarnings then r.errorCount + r.warningCount else r.errorCount := by
  cases showWarnings with
  | true =>
      rw [if_pos rfl, errorCount, warningCount, countP_isError_add_countP_isWarning]
      exact congrArg _ (List.filter_eq_self.mpr fun _ _ => rfl)
  | false => exact List.countP_eq_length_filter.symm

/-- No line of a block has a line feed, if the file's name and its messages have none. -/
theorem newline_not_mem_block {path : Path} (hpath : '\n' ∉ path.toString.toList)
    (hmessages : ∀ d ∈ r.findings path, '\n' ∉ d.message.toList) :
    ∀ line ∈ r.block showWarnings path, '\n' ∉ line.toList := by
  intro line hline
  rcases List.mem_append.mp hline with hline | hline
  · rcases List.mem_cons.mp hline with rfl | hline
    · rw [String.toList_append]
      exact List.not_mem_append hpath (by decide)
    · obtain ⟨d, hd, rfl⟩ := List.mem_map.mp hline
      exact Diagnostic.newline_not_mem_render (hmessages d (List.mem_of_mem_filter hd))
  · rw [List.mem_singleton.mp hline]
    exact List.not_mem_nil

/-- Read line by line, a summary has a block for each file with something to list, in the order
    of their registration, and one line more. The blocks list the findings of the report, or
    those that have to be mended, each once and as many as that last line counts. -/
theorem summary_lists (r : Report) (showWarnings : Bool) (hfiles : r.files.Nodup)
    (hpaths : ∀ path ∈ r.files, '\n' ∉ path.toString.toList)
    (hmessages : ∀ d ∈ r.all, '\n' ∉ d.message.toList) :
    Text.lines (r.summary showWarnings).toList =
        ((r.selectedFiles showWarnings).flatMap (r.block showWarnings) ++
          [r.counts.line]).map String.toList ∧
      (r.selectedFiles showWarnings).flatMap (r.selected showWarnings) =
        r.all.filter (·.isSelected showWarnings) ∧
      ((r.selectedFiles showWarnings).flatMap (r.selected showWarnings)).length =
        if showWarnings then r.errorCount + r.warningCount else r.errorCount := by
  have hselected := flatMap_selected showWarnings hfiles
  refine ⟨?_, hselected, by rw [hselected, length_selected]⟩
  rw [summary, Text.joinWith, String.toList_intercalate, summaryLines_eq showWarnings hfiles]
  refine Text.lines_intercalate ?_ ?_
  · rw [List.map_append]
    exact List.append_ne_nil_of_right_ne_nil _ (List.cons_ne_nil _ _)
  · rw [List.forall_mem_map, List.forall_mem_append]
    constructor
    · intro line hline
      obtain ⟨path, hpath, hline⟩ := List.mem_flatMap.mp hline
      have hfile : path ∈ r.files := List.mem_of_mem_filter hpath
      refine newline_not_mem_block showWarnings (hpaths path hfile) (fun d hd => ?_) line hline
      exact hmessages d (all_eq hfiles ▸ List.mem_flatMap.mpr ⟨path, hfile, hd⟩)
    · intro line hline
      rw [List.mem_singleton.mp hline]
      exact r.counts.newline_not_mem_line

/-- Two files, of which one has nothing but a warning, and findings of all kinds. -/
def sample : Report := ⟨[
  (⟨"", ["a.py"]⟩, [⟨⟨"", ["a.py"]⟩, .warning, 3, 1, "Too long", .rule, some "line-length"⟩]),
  (⟨"", ["b.py"]⟩, [⟨⟨"", ["b.py"]⟩, .error, 1, 2, "A tab", .rule, some "tab-indentation"⟩,
    ⟨⟨"", ["b.py"]⟩, .error, 0, 0, "", .syntaxCheck, none⟩])]⟩

theorem summary_lists_sample :
    sample.files.Nodup ∧ (∀ path ∈ sample.files, '\n' ∉ path.toString.toList) ∧
      (∀ d ∈ sample.all, '\n' ∉ d.message.toList) ∧
      Text.lines (sample.summary false).toList = ["b.py:", "Line 1, column 2: Error: A tab", "", "",
        "FAIL (2 files, 2 errors, 1 warnings)"].map String.toList := by
  have hfiles : sample.files.Nodup := by decide
  have hpaths : ∀ path ∈ sample.files, '\n' ∉ path.toString.toList := by decide +kernel
  have hmessages : ∀ d ∈ sample.all, '\n' ∉ d.message.toList := by decide +kernel
  refine ⟨hfiles, hpaths, hmessages, ?_⟩
  rw [(summary_lists sample false hfiles hpaths hmessages).1]
  decide +kernel

end Report

end TokenLint
