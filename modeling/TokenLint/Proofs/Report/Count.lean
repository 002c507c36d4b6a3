import Mathlib.Algebra.GroupWithZero.Nat
import TokenLint.Proofs.Ordered
import TokenLint.Report

/-!
# Totals of a Report

A finding has one severity of two, so what has to be mended and what may stay
are all there is. The same findings are counted in several places: over the
whole report, file by file and severity by severity, and once more by whoever
reads the report for programs and counts what is listed there. These counts
are sums over one list, split in different ways. The one thing that could come
between them is a file that is listed twice, for then its findings would be
looked up twice under one name.

## Main definitions

* `Report.findings`: The findings about a file, none if it is not known.
* `Payload.listed`: The findings that are listed with a file.
* `Payload.isOf`: Whether a listed finding is of a severity.
* `Report.AddsUp`: All counts of a report agree.

## Theorems

* `sum_countP_eq_countP_mem`: Counting by keys counts what has one of the keys.
* `sum_severityCounts`: The counts by severity are of all findings.
* `get?_severityCounts`: Each of them is of the findings of that severity.
* `Report.entries_eq`: A report is its files and the findings about each.
* `Report.addsUp`: If no file is listed twice, all counts agree.
-/

namespace TokenLint

section Counting

variable {α κ : Type} [DecidableEq κ]

/-- Counting by one more key counts the elements with that key, too. -/
theorem countP_mem_cons (f : α → κ) {k : κ} {ks : List κ} (hk : k ∉ ks) (xs : List α) :
    xs.countP (fun x => f x ∈ k :: ks) =
      xs.countP (fun x => f x = k) + xs.countP (fun x => f x ∈ ks) := by
  induction xs with
  | nil => rfl
  | cons x xs ih =>
      simp only [List.countP_cons, decide_eq_true_eq] at ih ⊢
      rw [ih]
      by_cases hx : f x = k
      · have hno : f x ∉ ks := hx ▸ hk
        rw [if_pos (List.mem_cons.mpr (.inl hx)), if_pos hx, if_neg hno]
        omega
      · by_cases hmem : f x ∈ ks
        · rw [if_pos (List.mem_cons_of_mem _ hmem), if_neg hx, if_pos hmem]
          omega
        · have hno : f x ∉ k :: ks := fun hc => (List.mem_cons.mp hc).elim hx hmem
          rw [if_neg hno, if_neg hx, if_neg hmem]
          omega

/-- Counting by keys counts each element that has one of the keys once. -/
theorem sum_countP_eq_countP_mem (f : α → κ) {ks : List κ} (hks : ks.Nodup) (xs : List α) :
    (ks.map fun k => xs.countP (fun x => f x = k)).sum = xs.countP (fun x => f x ∈ ks) := by
  induction ks with
  | nil =>
      simp only [List.map_nil, List.sum_nil, List.not_mem_nil, decide_false]
      exact (congrFun List.countP_false xs).symm
  | cons k ks ih =>
      rw [List.nodup_cons] at hks
      rw [List.map_cons, List.sum_cons, ih hks.2, countP_mem_cons f hks.1]

end Counting

/-- The counts by severity are of all findings. -/
theorem sum_severityCounts (ds : List Diagnostic) :
    ((severityCounts ds).map (·.2)).sum = ds.length := by
  have hall : ∀ d ∈ ds, decide (d.severity ∈ distinct (ds.map (·.severity))) = true :=
    fun d hd => decide_eq_true ((mem_distinct _ _).mpr (List.mem_map_of_mem hd))
  rw [severityCounts, List.map_map]
  exact (sum_countP_eq_countP_mem (·.severity) (nodup_distinct _) ds).trans
    (List.countP_eq_length.mpr hall)

/-- Each of the counts by severity is of the findings of that severity. -/
theorem get?_severityCounts (s : Severity) (ds : List Diagnostic) :
    (Ordered.get? s (severityCounts ds)).getD 0 = ds.countP (·.severity = s) := by
  by_cases hs : s ∈ distinct (ds.map (·.severity))
  · rw [severityCounts, Ordered.get?_map_pair (fun s => ds.countP (·.severity = s)) s _ hs]
    rfl
  · have hnone : Ordered.get? s (severityCounts ds) = none := by
      rw [Ordered.get?_eq_none_iff, severityCounts, List.map_map]
      simpa only [Function.comp_def, List.map_id'] using hs
    rw [hnone, Option.getD_none, eq_comm, List.countP_eq_zero]
    intro d hd hc
    exact hs ((mem_distinct _ _).mpr (of_decide_eq_true hc ▸ List.mem_map_of_mem hd))

/-- A finding is an error or a warning, and not both. -/
theorem countP_isError_add_countP_isWarning (ds : List Diagnostic) :
    ds.countP (·.isError) + ds.countP (·.isWarning) = ds.length := by
  have hnot : (fun d : Diagnostic => d.isWarning) = fun d => !d.isError := by
    funext d
    rw [Diagnostic.isWarning, Diagnostic.isError]
    cases d.severity <;> rfl
  rw [hnot, List.length_eq_countP_add_countP (·.isError)]
  simp only [Bool.not_eq_true, Bool.decide_eq_false]

/-- The findings that are listed with a file in a report for programs. -/
def Payload.listed : Payload → List Payload
  | .map [_, _, (.string "diagnostics", .list ds)] => ds
  | _ => []

/-- Whether a listed finding is of a severity. -/
def Payload.isOf (s : Severity) : Payload → Bool
  | .map ((.string "severity", .symbol (.severity t)) :: _) => t = s
  | _ => false

namespace Report

variable {r : Report}

theorem hasErrors_eq (r : Report) : r.hasErrors = decide (0 < r.errorCount) := by
  rw [hasErrors, errorCount, Bool.eq_iff_iff, List.any_eq_true, decide_eq_true_eq,
    List.countP_pos_iff]

/-- The findings about a file, none if it is not known. -/
def findings (r : Report) (path : Path) : List Diagnostic :=
  (r.diagnostics? (some path)).toOption.getD []

/-- The findings of a severity about a file, as they are counted. -/
def countOf (r : Report) (s : Severity) (path : Path) : Nat :=
  (Ordered.get? s (severityCounts (r.findings path))).getD 0

/-- All counts of a report agree: over the whole, by files, by severities, and of what is
    listed for programs. -/
structure AddsUp (r : Report) : Prop where
  total : (r.diagnostics? none).map List.length = .ok (r.errorCount + r.warningCount)
  files : (r.files.map fun path => ((severityCounts (r.findings path)).map (·.2)).sum).sum =
    r.errorCount + r.warningCount
  errors : (r.files.map (r.countOf .error)).sum = r.errorCount
  warnings : (r.files.map (r.countOf .warning)).sum = r.warningCount
  payload : ∃ entries : List Payload,
    r.payload = .map [
      (.string "summary", .map [(.string "files", .int r.files.length),
        (.string "errors", .int r.errorCount), (.string "warnings", .int r.warningCount)]),
      (.string "files", .list entries)] ∧
    entries = (r.files.map fun path => filePayload (path, r.findings path)) ∧
    (entries.flatMap (·.listed)).countP (·.isOf .error) = r.errorCount ∧
    (entries.flatMap (·.listed)).countP (·.isOf .warning) = r.warningCount ∧
    (entries.flatMap (·.listed)).length = r.errorCount + r.warningCount

/-- A report is its files and the findings about each. -/
theorem entries_eq (h : r.files.Nodup) :
    r.entries = r.files.map fun path => (path, r.findings path) := by
  rw [files, List.map_map, eq_comm]
  conv => rhs; rw [← List.map_id r.entries]
  refine List.map_congr_left fun entry hentry => ?_
  rw [Function.comp_apply, findings, diagnostics?, bucket, Ordered.get?_of_mem h hentry]
  rfl

theorem all_eq (h : r.files.Nodup) : r.all = r.files.flatMap r.findings := by
  rw [all, entries_eq h, List.flatMap_map]

/-- The counts of a severity by files are of all findings of that severity. -/
theorem sum_countOf (h : r.files.Nodup) (s : Severity) :
    (r.files.map (r.countOf s)).sum = r.all.countP (·.severity = s) := by
  have hcount : r.countOf s = fun path => (r.findings path).countP (·.severity = s) :=
    funext fun path => get?_severityCounts s (r.findings path)
  rw [hcount, all_eq h, List.countP_flatMap]
  rfl

/-- What is listed of the findings about files are the findings. -/
theorem flatMap_listed (r : Report) (paths : List Path) :
    (paths.map fun path => filePayload (path, r.findings path)).flatMap (·.listed) =
      (paths.flatMap r.findings).map (·.payload) := by
  rw [List.flatMap_map, List.map_flatMap]
  rfl

/-- If no file is listed twice, all counts agree. -/
theorem addsUp (h : r.files.Nodup) : r.AddsUp where
  total := congrArg Except.ok (countP_isError_add_countP_isWarning r.all).symm
  files := by
    simp only [sum_severityCounts]
    rw [errorCount, warningCount, countP_isError_add_countP_isWarning, all_eq h,
      List.length_flatMap]
  errors := sum_countOf h .error
  warnings := sum_countOf h .warning
  payload := by
    have hlength : r.fileCount = r.files.length := (List.length_map ..).symm
    refine ⟨_, ?_, rfl, ?_⟩
    · rw [payload, hlength, entries_eq h, List.map_map]
      rfl
    · rw [flatMap_listed, ← all_eq h, List.countP_map, List.countP_map, List.length_map,
        ← countP_isError_add_countP_isWarning]
      exact ⟨rfl, rfl, rfl⟩

end Report

end TokenLint
