import TokenLint.Analysis.Pipeline
import TokenLint.Proofs.Ordered

/-!
# Scheduling

What a run comes to does not depend on the number of workers or on the order
in which files finish. The two ways to look at files build the report in
different ways: one after the other, each file is entered as it finishes;
several at a time, what comes of each is kept by file until all have finished.
Both are measured against `Pipeline.reportOf`, which builds nothing up: it
lists each file with its findings, and the findings of a file come from that
file alone.

`runInTurn_eq` and `runPool_eq` say what the two loops do with files none of
which ends the run, each by induction on the files. The order enters only in
the second one, and what it keeps is a map, so the order is gone once the map
is asked for each file in `merge_eq`.

A file that ends the run ends it in both ways, whatever the order and whoever
listens. The reports that the listener was told before that may differ.

## Main definitions

* `Pipeline.Completes`: None of the files ends the run.
* `Listener.IsSilent`: A listener that never breaks down.
* `Pipeline.findings`: The findings about a file.
* `Pipeline.reports`: What comes of files, each on its own.
* `Pipeline.reportOf`: The report that lists files with their findings.

## Theorems

* `Pipeline.run_eq`: The stages of one file.
* `Pipeline.path_of_run`: The report of a file is about that file.
* `FileOutcome.path_of_mem`: All findings about a file name the file.
* `Report.enter_eq`: A new file is entered at the end.
* `Pipeline.enter_of_run`: What a file that has finished puts into the report.
* `Pipeline.runInTurn_eq`: Files one after the other.
* `Pipeline.runPool_eq`: Files several at a time.
* `Pipeline.merge_eq`: The order is gone from what is kept.
* `Pipeline.runInTurn_error`, `Pipeline.runPool_error`: A file ends the run.
* `analyzeWith_eq`, `analyzeWith_error`: What a run comes to.
* `analyzeWith_schedule`: The schedule of a run does not matter.
-/

namespace TokenLint

/-- A listener that never breaks down. -/
def Listener.IsSilent (listen : Listener) : Prop := ∀ told, listen told = none

namespace Pipeline

variable (p : Pipeline)

/-- None of the files ends the run. -/
def Completes (files : List Path) : Prop :=
  ∀ path ∈ files, ∃ r, p.run path = .ok r

/-- The findings about a file, if it does not end the run. -/
def findings (path : Path) : List Diagnostic :=
  match p.run path with
  | .ok r => r.diagnostics
  | .error _ => []

/-- What comes of files, each on its own. -/
def reports (paths : List Path) : List FileReport :=
  paths.filterMap fun path => (p.run path).toOption

/-- The report that lists files with their findings. -/
def reportOf (paths : List Path) : Report :=
  ⟨paths.map fun path => (path, p.findings path)⟩

/-- The stages of one file. -/
theorem run_eq (path : Path) :
    p.run path = match p.reportOn path with
      | .error f => .error (.failure f)
      | .ok (some report) => .ok ⟨path, .rejected report⟩
      | .ok none => (p.runChecked path).map fun outcome => ⟨path, outcome⟩ := by
  rw [run]
  cases p.reportOn path with
  | error f => rfl
  | ok report =>
      cases report with
      | some report => rfl
      | none => cases p.runChecked path <;> rfl

/-- The report of a file is about that file. -/
theorem path_of_run {path : Path} {r : FileReport} (h : p.run path = .ok r) : r.path = path := by
  rw [run_eq] at h
  split at h
  · simp only [reduceCtorEq] at h
  · rw [← Except.ok.inj h]
  · cases hc : p.runChecked path with
    | error b =>
        rw [hc] at h
        simp only [Except.map, reduceCtorEq] at h
    | ok outcome =>
        rw [hc] at h
        rw [← Except.ok.inj h]

theorem findings_of_run {path : Path} {r : FileReport} (h : p.run path = .ok r) :
    p.findings path = r.diagnostics := by
  rw [findings, h]

theorem reports_cons {path : Path} {r : FileReport} (h : p.run path = .ok r)
    (paths : List Path) : p.reports (path :: paths) = r :: p.reports paths := by
  rw [reports, List.filterMap_cons, h]
  rfl

/-- A report that comes of files comes of one of them. -/
theorem run_of_mem_reports {paths : List Path} {r : FileReport} (h : r ∈ p.reports paths) :
    r.path ∈ paths ∧ p.run r.path = .ok r := by
  rw [reports, List.mem_filterMap] at h
  rcases h with ⟨path, hpath, hrun⟩
  have hok : p.run path = .ok r := by
    cases hr : p.run path with
    | error b =>
        rw [hr] at hrun
        simp only [Except.toOption, reduceCtorEq] at hrun
    | ok r' =>
        rw [hr] at hrun
        simp only [Except.toOption, Option.some.injEq] at hrun
        rw [hrun]
  rw [p.path_of_run hok]
  exact ⟨hpath, hok⟩

theorem map_path_reports {paths : List Path} (h : p.Completes paths) :
    (p.reports paths).map (·.path) = paths := by
  induction paths with
  | nil => rfl
  | cons path paths ih =>
      rcases h path List.mem_cons_self with ⟨r, hr⟩
      rw [p.reports_cons hr, List.map_cons, p.path_of_run hr,
        ih fun q hq => h q (List.mem_cons_of_mem path hq)]

end Pipeline

/-- All findings about a file name the file. -/
theorem FileOutcome.path_of_mem (path : Path) (outcome : FileOutcome) (d : Diagnostic)
    (h : d ∈ outcome.diagnostics path) : d.path = path := by
  cases outcome with
  | rejected report =>
      rw [diagnostics, List.mem_singleton] at h
      rw [h, Diagnostic.ofFile]
  | unreadable fault =>
      rw [diagnostics, List.mem_singleton] at h
      rw [h, Diagnostic.ofFile]
  | untokenizable r =>
      rw [diagnostics, List.mem_singleton] at h
      rw [h, Rejection.diagnostic]
  | checked size runs =>
      rw [diagnostics, List.mem_flatMap] at h
      rcases h with ⟨⟨rule, run⟩, _, hd⟩
      simp only [RuleRun.diagnostics, List.mem_append, List.mem_map, Option.mem_toList,
        Option.map_eq_some_iff] at hd
      rcases hd with ⟨f, _, rfl⟩ | ⟨f, _, rfl⟩
      · rfl
      · rfl

namespace Report

theorem bucket_of_get? {r : Report} {path : Path} {ds : List Diagnostic}
    (h : Ordered.get? path r.entries = some ds) : r.bucket path = .ok ds := by
  rw [bucket, h]

/-- A new file is entered at the end, with all its findings. -/
theorem enter_eq (whole : Report) (path : Path) (ds : List Diagnostic)
    (hnew : path ∉ whole.files) (hds : ∀ d ∈ ds, d.path = path) :
    whole.enter path ds = .ok ⟨whole.entries ++ [(path, ds)]⟩ := by
  have hadd : whole.addFile path = ⟨whole.entries ++ [(path, [])]⟩ := by
    have hnone := (Ordered.get?_eq_none_iff path whole.entries).mpr hnew
    rw [addFile, hnone, Option.isSome_none, if_neg Bool.false_ne_true,
      Ordered.put_of_not_mem path [] whole.entries hnew]
  have hbucket : (whole.addFile path).bucket path = .ok [] := by
    refine bucket_of_get? ?_
    rw [hadd, Ordered.get?_append_of_not_mem path _ _ hnew, Ordered.get?, if_pos rfl]
  have hall : ∀ d ∈ ds, decide (d.path = path) = true := by
    intro d hd
    rw [decide_eq_true_eq]
    exact hds d hd
  have htake : ds.takeWhile (fun d => decide (d.path = path)) = ds := by
    rw [← List.append_nil ds, List.takeWhile_append_of_pos hall, List.takeWhile_nil]
  have hfind : ds.find? (fun d => decide (d.path ≠ path)) = none := by
    rw [List.find?_eq_none]
    intro d hd hne
    exact of_decide_eq_true hne (hds d hd)
  rw [enter, extend, hbucket]
  simp only [htake, hfind, Option.map_none]
  rw [append, hadd, Ordered.modify_append, Ordered.modify_of_not_mem path _ _ hnew]
  simp only [Ordered.modify, List.map_cons, List.map_nil, if_true, List.nil_append]

end Report

namespace Pipeline

section Loops

variable (p : Pipeline) (listen : Listener)

/-- A new file that has finished is entered with what is found about it, and
    the files that follow stay new. -/
theorem enter_of_run {whole : Report} {path : Path} {paths : List Path} {r : FileReport}
    (hr : p.run path = .ok r) (hnodup : (whole.files ++ path :: paths).Nodup) :
    ∃ whole' : Report, whole.enter path r.diagnostics = .ok whole' ∧
      whole'.entries = whole.entries ++ [(path, p.findings path)] ∧
      (whole'.files ++ paths).Nodup := by
  have hnew : path ∉ whole.files := fun h =>
    (List.nodup_append.mp hnodup).2.2 path h path List.mem_cons_self rfl
  -- The report refuses findings about another file, but there are none.
  have hnames : ∀ d ∈ r.diagnostics, d.path = path := by
    intro d hd
    rw [FileOutcome.path_of_mem r.path r.outcome d hd, p.path_of_run hr]
  refine ⟨⟨whole.entries ++ [(path, p.findings path)]⟩, ?_, rfl, ?_⟩
  · rw [p.findings_of_run hr]
    exact whole.enter_eq path r.diagnostics hnew hnames
  · rw [Report.files, List.map_append, List.append_assoc]
    exact hnodup

/-- Files one after the other: each is told of and entered in its turn. -/
theorem runInTurn_eq (hlisten : listen.IsSilent) (told : List FileReport) (whole : Report)
    (paths : List Path) (hnodup : (whole.files ++ paths).Nodup) (hcomplete : p.Completes paths) :
    p.runInTurn listen told whole paths =
      ⟨told ++ p.reports paths, none, .ok ⟨whole.entries ++ (p.reportOf paths).entries⟩⟩ := by
  induction paths generalizing told whole with
  | nil => rw [runInTurn, reports, reportOf, List.filterMap_nil, List.map_nil, List.append_nil,
      List.append_nil]
  | cons path paths ih =>
      rcases hcomplete path List.mem_cons_self with ⟨r, hr⟩
      rcases p.enter_of_run hr hnodup with ⟨whole', henter, hentries, hrest⟩
      have hquiet := hlisten (told ++ [r])
      rw [runInTurn, hr]
      simp only [hquiet, henter]
      rw [ih _ _ hrest fun q hq => hcomplete q (List.mem_cons_of_mem path hq), hentries,
        p.reports_cons hr, reportOf, reportOf, List.map_cons, List.append_assoc, List.append_assoc,
        List.singleton_append, List.singleton_append]

/-- Files several at a time: what comes of each is kept, in the order in which they finish. -/
theorem runPool_eq (hlisten : listen.IsSilent) (told : List FileReport)
    (kept : List (Path × FileReport)) (paths : List Path)
    (hnodup : (kept.map (·.1) ++ paths).Nodup) (hcomplete : p.Completes paths) :
    p.runPool listen told kept paths =
      ⟨told ++ p.reports paths, none, .ok (kept ++ (p.reports paths).map fun r => (r.path, r))⟩ := by
  induction paths generalizing told kept with
  | nil => rw [runPool, reports, List.filterMap_nil, List.map_nil, List.append_nil, List.append_nil]
  | cons path paths ih =>
      rcases hcomplete path List.mem_cons_self with ⟨r, hr⟩
      have hpath := p.path_of_run hr
      have hnew : r.path ∉ kept.map (·.1) := by
        rw [hpath]
        exact fun h => (List.nodup_append.mp hnodup).2.2 path h path List.mem_cons_self rfl
      have hquiet := hlisten (told ++ [r])
      -- Nothing is kept under the file so far, so what comes of it is kept at the end.
      have hrest : ((kept ++ [(r.path, r)]).map (·.1) ++ paths).Nodup := by
        rw [List.map_append, List.append_assoc, List.map_singleton, hpath]
        exact hnodup
      rw [runPool, hr]
      simp only [hquiet, Ordered.put_of_not_mem r.path r kept hnew]
      rw [ih _ _ hrest fun q hq => hcomplete q (List.mem_cons_of_mem path hq),
        p.reports_cons hr, List.map_cons, List.append_assoc, List.append_assoc,
        List.singleton_append, List.singleton_append]

/-- What is kept of files is found again under each. -/
theorem get?_reports {paths : List Path} {path : Path} {r : FileReport}
    (hcomplete : p.Completes paths) (hpath : path ∈ paths) (hr : p.run path = .ok r) :
    Ordered.get? path ((p.reports paths).map fun r => (r.path, r)) = some r := by
  induction paths with
  | nil => exact absurd hpath List.not_mem_nil
  | cons first paths ih =>
      rcases hcomplete first List.mem_cons_self with ⟨r', hr'⟩
      rw [p.reports_cons hr', List.map_cons, Ordered.get?, p.path_of_run hr']
      by_cases hfirst : first = path
      · rw [if_pos hfirst]
        rw [hfirst, hr] at hr'
        rw [Except.ok.inj hr']
      · rw [if_neg hfirst]
        exact ih (fun q hq => hcomplete q (List.mem_cons_of_mem first hq))
          ((List.mem_cons.mp hpath).resolve_left fun h => hfirst h.symm)

/-- What is kept of files goes into the report in the order of the files,
    whatever order it was kept in. -/
theorem merge_eq (kept : List (Path × FileReport)) (whole : Report) (paths : List Path)
    (hnodup : (whole.files ++ paths).Nodup)
    (hkept : ∀ path ∈ paths, ∃ r, p.run path = .ok r ∧ Ordered.get? path kept = some r) :
    Report.merge kept whole paths = .ok ⟨whole.entries ++ (p.reportOf paths).entries⟩ := by
  induction paths generalizing whole with
  | nil => rw [Report.merge, reportOf, List.map_nil, List.append_nil]
  | cons path paths ih =>
      rcases hkept path List.mem_cons_self with ⟨r, hr, hget⟩
      rcases p.enter_of_run hr hnodup with ⟨whole', henter, hentries, hrest⟩
      rw [Report.merge, hget]
      simp only [henter]
      rw [ih _ hrest fun q hq => hkept q (List.mem_cons_of_mem path hq), hentries, reportOf, reportOf,
        List.map_cons, List.append_assoc, List.singleton_append]

/-- A file that ends the run is still to come when the first one does not. -/
theorem exists_error_of_cons {path : Path} {paths : List Path} {r : FileReport}
    (hr : p.run path = .ok r) (hbad : ∃ q ∈ path :: paths, ∃ b, p.run q = .error b) :
    ∃ q ∈ paths, ∃ b, p.run q = .error b := by
  rcases hbad with ⟨q, hq, b, hb⟩
  rcases List.mem_cons.mp hq with rfl | hq
  · rw [hr] at hb
    simp only [reduceCtorEq] at hb
  · exact ⟨q, hq, b, hb⟩

/-- A file that ends the run ends it when files are looked at one after the other. -/
theorem runInTurn_error (told : List FileReport) (whole : Report) (paths : List Path)
    (hbad : ∃ path ∈ paths, ∃ b, p.run path = .error b) :
    ∃ b, (p.runInTurn listen told whole paths).result = .error b := by
  induction paths generalizing told whole with
  | nil =>
      rcases hbad with ⟨path, hpath, _⟩
      exact absurd hpath List.not_mem_nil
  | cons path paths ih =>
      rw [runInTurn]
      cases hr : p.run path with
      | error b => exact ⟨b, rfl⟩
      | ok r =>
          have hrest := p.exists_error_of_cons hr hbad
          simp only
          -- The listener and the report may end the run before that file does.
          cases listen (told ++ [r]) with
          | some b => exact ⟨b, rfl⟩
          | none =>
              cases whole.enter path r.diagnostics with
              | error b => exact ⟨b, rfl⟩
              | ok whole => exact ih _ whole hrest

/-- A file that ends the run ends it when files are looked at several at a time. -/
theorem runPool_error (told : List FileReport) (kept : List (Path × FileReport))
    (paths : List Path) (hbad : ∃ path ∈ paths, ∃ b, p.run path = .error b) :
    ∃ b, (p.runPool listen told kept paths).result = .error b := by
  induction paths generalizing told kept with
  | nil =>
      rcases hbad with ⟨path, hpath, _⟩
      exact absurd hpath List.not_mem_nil
  | cons path paths ih =>
      rw [runPool]
      cases hr : p.run path with
      | error b => exact ⟨b, rfl⟩
      | ok r =>
          have hrest := p.exists_error_of_cons hr hbad
          simp only
          cases listen (told ++ [r]) with
          | some b => exact ⟨b, rfl⟩
          | none => exact ih _ _ hrest

end Loops

end Pipeline

namespace Report

/-- The findings about a file are those that the file has on its own. -/
theorem diagnostics?_reportOf (p : Pipeline) (paths : List Path) (path : Path)
    (h : path ∈ paths) : (p.reportOf paths).diagnostics? (some path) = .ok (p.findings path) := by
  rw [diagnostics?]
  exact bucket_of_get? (Ordered.get?_map_pair p.findings path paths h)

/-- A file comes out as it does on its own. -/
theorem status_reportOf (p : Pipeline) (paths : List Path) (path : Path) (h : path ∈ paths) :
    (p.reportOf paths).status path = .ok (.ofDiagnostics (p.findings path)) := by
  have hbucket := bucket_of_get? (Ordered.get?_map_pair p.findings path paths h)
  rw [status, Pipeline.reportOf, hbucket]
  rfl

theorem files_reportOf (p : Pipeline) (paths : List Path) : (p.reportOf paths).files = paths := by
  rw [files, Pipeline.reportOf, List.map_map]
  exact List.map_id paths

end Report

section Run

variable (listen : Listener) (p : Pipeline) (schedule : List Path → List Path) (workers : Int)
  (files : List Path)

/-- What a run comes to when no file ends it: the report on the files in the
    order in which they were given, whatever the order in which they finish. -/
theorem analyzeWith_eq (hworkers : 1 ≤ workers)
    (horder : (workers = 1 ∨ (distinct files).length ≤ 1) ∨
      (schedule (distinct files)).Perm (distinct files))
    (hcomplete : p.Completes files) (hlisten : listen.IsSilent) :
    ∃ order, order.Perm (distinct files) ∧ analyzeWith listen p schedule workers files =
      ⟨p.reports order, none, .ok (p.reportOf (distinct files))⟩ := by
  have hdistinct : p.Completes (distinct files) := fun path hpath =>
    hcomplete path ((mem_distinct path files).mp hpath)
  have hnodup := nodup_distinct files
  rw [analyzeWith, if_neg (Int.not_lt.mpr hworkers)]
  by_cases hturn : workers = 1 ∨ (distinct files).length ≤ 1
  · refine ⟨distinct files, List.Perm.refl _, ?_⟩
    rw [if_pos hturn, p.runInTurn_eq listen hlisten [] .empty _ hnodup hdistinct]
    rfl
  · have hperm := horder.resolve_left hturn
    have hscheduled : p.Completes (schedule (distinct files)) := fun path hpath =>
      hdistinct path (hperm.mem_iff.mp hpath)
    refine ⟨schedule (distinct files), hperm, ?_⟩
    rw [if_neg hturn,
      p.runPool_eq listen hlisten [] [] _ (hperm.nodup_iff.mpr hnodup) hscheduled]
    simp only [Except.bind, List.nil_append]
    rw [p.merge_eq _ .empty (distinct files) hnodup fun path hpath => ?_]
    · rfl
    · rcases hdistinct path hpath with ⟨r, hr⟩
      exact ⟨r, hr, p.get?_reports hscheduled (hperm.mem_iff.mpr hpath) hr⟩

/-- A file that ends the run ends it with any number of workers. -/
theorem analyzeWith_error (hworkers : 1 ≤ workers)
    (horder : (workers = 1 ∨ (distinct files).length ≤ 1) ∨
      (schedule (distinct files)).Perm (distinct files))
    (hbad : ∃ path ∈ files, ∃ b, p.run path = .error b) :
    ∃ b, (analyzeWith listen p schedule workers files).result = .error b := by
  rcases hbad with ⟨path, hpath, hrun⟩
  rw [← mem_distinct path files] at hpath
  rw [analyzeWith, if_neg (Int.not_lt.mpr hworkers)]
  by_cases hturn : workers = 1 ∨ (distinct files).length ≤ 1
  · rw [if_pos hturn]
    exact p.runInTurn_error listen [] .empty _ ⟨path, hpath, hrun⟩
  · have hperm := horder.resolve_left hturn
    rcases p.runPool_error listen [] [] _ ⟨path, hperm.mem_iff.mpr hpath, hrun⟩ with ⟨b, hb⟩
    rw [if_neg hturn]
    refine ⟨b, ?_⟩
    simp only [hb, Except.bind]

/-- The schedule of a run does not matter. If no file ends the run and the
    listener does not, the report is the one that a single worker makes. It
    lists the files as they were given, each once, with the findings that a run
    over that file alone makes. Each file is told of once, as the report has
    it. A file that ends the run does so with any number of workers. -/
theorem analyzeWith_schedule (hworkers : 1 ≤ workers)
    (hschedule : (schedule (distinct files)).Perm (distinct files)) :
    (p.Completes files → listen.IsSilent → ∃ report,
      (analyzeWith listen p schedule workers files).result = .ok report ∧
      (analyzeWith listen p schedule 1 files).result = .ok report ∧
      report.files = files.eraseDups ∧
      (∀ path ∈ files, ∃ alone ds,
        (analyzeWith listen p schedule workers [path]).result = .ok alone ∧
        alone.diagnostics? (some path) = .ok ds ∧ report.diagnostics? (some path) = .ok ds) ∧
      ((analyzeWith listen p schedule workers files).finished.map (·.path)).Perm files.eraseDups ∧
      ∀ r ∈ (analyzeWith listen p schedule workers files).finished,
        report.diagnostics? (some r.path) = .ok r.diagnostics ∧
        report.status r.path = .ok r.status) ∧
    ((∃ path ∈ files, ∃ b, p.run path = .error b) →
      (∃ b, (analyzeWith listen p schedule workers files).result = .error b) ∧
      ∃ b, (analyzeWith listen p schedule 1 files).result = .error b) := by
  refine ⟨fun hcomplete hlisten => ?_, fun hbad => ?_⟩
  · rcases analyzeWith_eq listen p schedule workers files hworkers (Or.inr hschedule) hcomplete
      hlisten with ⟨order, horder, hrun⟩
    rcases analyzeWith_eq listen p schedule 1 files (Int.le_refl 1) (Or.inr hschedule) hcomplete
      hlisten with ⟨_, _, hone⟩
    have hordered : p.Completes order := fun path hpath =>
      hcomplete path ((mem_distinct path files).mp (horder.mem_iff.mp hpath))
    rw [hrun, hone]
    refine ⟨p.reportOf (distinct files), rfl, rfl, ?_, ?_, ?_, ?_⟩
    · rw [Report.files_reportOf, distinct_eq_eraseDups]
    · intro path hpath
      -- A single file leaves nothing to the schedule, whatever the number of workers.
      have halone : p.Completes [path] := fun q hq => by
        rw [List.mem_singleton] at hq
        exact hq ▸ hcomplete path hpath
      rcases analyzeWith_eq listen p schedule workers [path] hworkers
        (Or.inl (Or.inr (Nat.le_refl 1))) halone hlisten with ⟨_, _, hsingle⟩
      refine ⟨p.reportOf [path], p.findings path, ?_, ?_, ?_⟩
      · rw [hsingle]
        rfl
      · exact Report.diagnostics?_reportOf p [path] path List.mem_cons_self
      · exact Report.diagnostics?_reportOf p _ path ((mem_distinct path files).mpr hpath)
    · rw [p.map_path_reports hordered, ← distinct_eq_eraseDups]
      exact horder
    · intro r hr
      rcases p.run_of_mem_reports hr with ⟨hpath, hok⟩
      have hmem := horder.mem_iff.mp hpath
      rw [Report.diagnostics?_reportOf p _ r.path hmem, Report.status_reportOf p _ r.path hmem,
        p.findings_of_run hok]
      exact ⟨rfl, rfl⟩
  · exact ⟨analyzeWith_error listen p schedule workers files hworkers (Or.inr hschedule) hbad,
      analyzeWith_error listen p schedule 1 files (Int.le_refl 1) (Or.inr hschedule) hbad⟩

end Run

/-- A pipeline whose pre-check has a report on the files named `b` and whose
    only rule reports each token. -/
def reportingPipeline : Pipeline where
  check := some fun path => .ok (if path.steps = ["b"] then "no" else "")
  read _ := .ok ['x', '\n']
  tokenize path source := tokenize path source ⟨[], none⟩
  rules := [.ofTokens "each" .warning [] fun tokens =>
    tokens.map fun t => ⟨.warning, t.line, t.column, "seen"⟩]

/-- Two files, one of them given twice. -/
def repeatedFiles : List Path := [⟨"", ["a"]⟩, ⟨"", ["b"]⟩, ⟨"", ["a"]⟩]

theorem analyzeWith_schedule_reverse :
    1 ≤ (2 : Int) ∧ (distinct repeatedFiles).reverse.Perm (distinct repeatedFiles) ∧
      reportingPipeline.Completes repeatedFiles ∧ Listener.silent.IsSilent ∧ ∃ report,
        (analyzeWith .silent reportingPipeline List.reverse 2 repeatedFiles).result = .ok report ∧
        (analyzeWith .silent reportingPipeline List.reverse 1 repeatedFiles).result = .ok report ∧
        report.files = [⟨"", ["a"]⟩, ⟨"", ["b"]⟩] := by
  have hcomplete : reportingPipeline.Completes repeatedFiles := by
    intro path hpath
    simp only [repeatedFiles, List.mem_cons, List.not_mem_nil, or_false] at hpath
    rcases hpath with rfl | rfl | rfl
    · exact ⟨_, rfl⟩
    · exact ⟨_, rfl⟩
    · exact ⟨_, rfl⟩
  have hsilent : Listener.silent.IsSilent := fun _ => rfl
  have hperm := List.reverse_perm (distinct repeatedFiles)
  have hrun := (analyzeWith_schedule .silent reportingPipeline List.reverse 2 repeatedFiles
    (by decide) hperm).1 hcomplete hsilent
  rcases hrun with ⟨report, htwo, hone, hfiles, _⟩
  refine ⟨by decide, hperm, hcomplete, hsilent, report, htwo, hone, ?_⟩
  rw [hfiles]
  decide

end TokenLint
