import TokenLint.Proofs.CommandLine.Outcome
import TokenLint.Proofs.Report.Summary

/-!
# The Verdict of a Check

A check that gets to the end of its analysis says what it has come to three
times: by the exit code, by the verdict and the totals in a text, and by the
totals in a report for programs. All of it is read off one report, but not by
the same rule. The exit code goes by a policy, while the verdict goes by the
errors alone, so that a run can fail and still be called OK.

How a check is presented is none of its business: the number of workers, the
format, which findings are listed, and how log records are written. A check
that is made again in another way comes to the same report, since it sets up
the same rules and files, starts the same interpreter, and puts the files
through the same stages in whatever order. What may keep it from getting there
is only that it is asked for in a way that cannot be read: without a value
where one is used, or with log settings that the environment has and that
nobody knows.

## Main definitions

* `Counts.Printed`: Text that has totals in it.
* `CommandLine.analysed`: A check as far as its report.
* `CommandLine.Completes`: Runs that get to the end of their analysis.
* `CommandLine.Arguments.SameCheck`: Command lines that ask for the same check.
* `CommandLine.World.Shares`: Worlds with the same files and commands.
* `CommandLine.Presentable`: Presentations that can be read.

## Theorems

* `Report.summary_eq`, `Report.toJson_payload`: Where the totals stand.
* `CommandLine.exitCode_eq_one_iff`: When findings make a run fail.
* `CommandLine.setUp_same`, `CommandLine.analysed_same`: A check that is made
  again comes to the same report.
* `CommandLine.run_of_completes`: What a run with a report comes to and writes.
* `CommandLine.completes_iff`: The runs with a report are those with the exit
  codes zero and one.
* `CommandLine.run_verdict`: The exit code, the verdict and the totals agree,
  however the check is presented.
-/

namespace TokenLint

/-! ### Totals -/

namespace Counts

/-- The totals for programs. -/
def json (c : Counts) : Json :=
  .object [("files", .int c.files), ("errors", .int c.errors), ("warnings", .int c.warnings)]

/-- Text in a format that has totals in it: as its last line but a blank one, or as the
    summary of the one value that it is. -/
def Printed (c : Counts) : OutputFormat → String → Prop
  | .text, output => ∃ front, output = front ++ "\n" ++ c.line ++ "\n\n"
  | .json, output => ∃ text more, output = text ++ "\n" ∧
      Json.parse? text = some (.object (("summary", c.json) :: more))

end Counts

namespace Report

variable (r : Report)

theorem toJson_payload : r.payload.toJson = .object
    [("summary", r.counts.json), ("files", (Payload.list (r.entries.map filePayload)).toJson)] :=
  rfl

/-- A summary ends in its totals, on a line of their own. -/
theorem summary_eq (showWarnings : Bool) :
    ∃ front, "\n" ++ r.summary showWarnings = front ++ "\n" ++ r.counts.line := by
  rw [← totals_eq, summary, summaryLines, Text.joinWith]
  cases r.entries.flatMap (fileLines showWarnings) with
  | nil => exact ⟨"", by rw [List.nil_append, String.intercalate_singleton, String.empty_append]⟩
  | cons line lines =>
      refine ⟨"\n" ++ "\n".intercalate (line :: lines), ?_⟩
      rw [String.intercalate_append_of_ne_nil (List.cons_ne_nil line lines)
        (List.cons_ne_nil r.totals []), String.intercalate_singleton]
      simp only [String.append_assoc]

end Report

namespace CommandLine

/-- What is written of a report has its totals in it. -/
theorem printed_outcomeText (a : Arguments) (report : Report) (before : String)
    (hbefore : a.format = .json → before = "") :
    report.counts.Printed a.format (before ++ outcomeText a report) := by
  rw [outcomeText]
  cases hformat : a.format with
  | json =>
      refine ⟨report.json, _, ?_, report.parse?_json.trans (congrArg some report.toJson_payload)⟩
      rw [hbefore hformat, String.empty_append]
  | text =>
      obtain ⟨front, hfront⟩ := report.summary_eq a.showWarnings
      refine ⟨before ++ "\n" ++ front, ?_⟩
      -- The second of the two line ends in front of the summary is the one it is behind.
      have hsplit : "\n\n" ++ report.summary a.showWarnings =
          "\n" ++ ("\n" ++ report.summary a.showWarnings) := by
        rw [← String.append_assoc]
        rfl
      rw [hsplit, hfront]
      simp only [String.append_assoc]

/-! ### The exit code -/

theorem exitCode_eq_one_iff (policy : FailPolicy) (report : Report) :
    exitCode policy report.hasErrors report.hasWarnings = 1 ↔
      policy = .errors ∧ (∃ d ∈ report.all, d.isError = true) ∨
        policy = .warnings ∧ report.all ≠ [] := by
  have herrors : report.hasErrors = true ↔ ∃ d ∈ report.all, d.isError = true := List.any_eq_true
  have hsome : (report.hasErrors || report.hasWarnings) = true ↔ report.all ≠ [] := by
    rw [Bool.or_eq_true, herrors, Report.hasWarnings, List.any_eq_true]
    constructor
    · rintro (⟨d, hd, _⟩ | ⟨d, hd, _⟩) <;> exact List.ne_nil_of_mem hd
    · intro hne
      obtain ⟨d, hd⟩ := List.exists_mem_of_ne_nil _ hne
      -- A finding has one severity of two.
      cases hseverity : d.severity with
      | error => exact .inl ⟨d, hd, by rw [Diagnostic.isError, hseverity]; rfl⟩
      | warning => exact .inr ⟨d, hd, by rw [Diagnostic.isWarning, hseverity]; rfl⟩
  have hcode : ∀ b : Bool, (if b = true then (1 : Int) else 0) = 1 ↔ b = true := by decide
  rw [← herrors, ← hsome]
  cases policy <;>
    simp only [exitCode, hcode, reduceCtorEq, true_and, false_and, or_false, false_or]
  decide

/-! ### Checks as far as their report -/

/-- A check as far as its report, with what it was set up with. -/
def analysed (s : Session) (a : Arguments) (path : Path) : Except Breakdown (Setup × Report) := do
  let u ← (setUp s a path).result
  let interpreter ← (startInterpreter s u.settings).result
  let report ← (analyse s a u.settings u.rules u.files interpreter).result
  return (u, report)

/-- A run that gets to the end of its analysis, with what it was set up with and the
    report. -/
def Completes (w : World) (a : Arguments) (path : Path) (u : Setup) (report : Report) : Prop :=
  ∃ log, LogSettings.select (logRequest w a) = .ok log ∧ a.valueless.contains .format = false ∧
    analysed ⟨w, log⟩ a path = .ok (u, report)

section Check

variable {s : Session} {a : Arguments} {path : Path} {u : Setup} {report : Report}

theorem analysed_eq_ok_iff : analysed s a path = .ok (u, report) ↔
    (setUp s a path).result = .ok u ∧ ∃ i, (startInterpreter s u.settings).result = .ok i ∧
      (analyse s a u.settings u.rules u.files i).result = .ok report := by
  constructor
  · intro h
    obtain ⟨u', hset, h⟩ := ok_of_bind h
    obtain ⟨i, hstart, h⟩ := ok_of_bind h
    obtain ⟨report', hreport, h⟩ := ok_of_bind h
    cases h
    exact ⟨hset, i, hstart, hreport⟩
  · rintro ⟨hset, i, hstart, hreport⟩
    rw [analysed, hset]
    change ((startInterpreter s u.settings).result >>= _) = _
    rw [hstart]
    change ((analyse s a u.settings u.rules u.files i).result >>= _) = _
    rw [hreport]
    rfl

/-- A check with a report comes to the exit code that its findings lead to. What it writes
    last is the outcome, and for programs it writes nothing else. -/
theorem check_of_analysed (h : analysed s a path = .ok (u, report)) :
    (check s a path).result =
        .ok (exitCode u.settings.failOn report.hasErrors report.hasWarnings) ∧
      ∃ texts, outsOf (check s a path).events = texts ++ [outcomeText a report] ∧
        (a.format = .json → texts = []) := by
  obtain ⟨hset, i, hstart, hreport⟩ := analysed_eq_ok_iff.mp h
  obtain ⟨es, hquiet, heq⟩ := carryOut_of_ok (a := a) hstart
  rw [check, Activity.bind_of_ok hset, heq, hreport]
  refine ⟨rfl, outsOf (analyse s a u.settings u.rules u.files i).events, ?_, outs_analyse s u i⟩
  simp only [outsOf_append, (quiet_setUp s a path).outsOf_eq, outs_startInterpreter,
    hquiet.outsOf_eq, List.nil_append]
  rfl

/-- A check that comes to an exit code has come to a report. -/
theorem analysed_of_check {code : Int} (h : (check s a path).result = .ok code) :
    ∃ u report, analysed s a path = .ok (u, report) := by
  rw [check_result] at h
  obtain ⟨u, hset, h⟩ := ok_of_bind h
  cases hstart : (startInterpreter s u.settings).result with
  | error b =>
      rw [carryOut_of_error hstart] at h
      cases h
  | ok i =>
      obtain ⟨es, _, heq⟩ := carryOut_of_ok (a := a) hstart
      rw [heq] at h
      obtain ⟨report, hreport, _⟩ := ok_of_map h
      exact ⟨u, report, analysed_eq_ok_iff.mpr ⟨hset, i, hstart, hreport⟩⟩

end Check

section Run

variable {w : World} {argv : List String} {a : Arguments} {path : Path} {u : Setup}
  {report : Report} (hread : Arguments.read argv = .ok a) (hversion : a.showsVersion = false)
  (hlist : a.listsRules = false) (hpath : a.path = some path)

include hread hversion hlist hpath

/-- A run that gets to the end of its analysis comes to the exit code that its findings lead
    to, and what it writes has their totals in it. -/
theorem run_of_completes (h : Completes w a path u report) :
    (run w argv).result =
        .ok (exitCode u.settings.failOn report.hasErrors report.hasWarnings) ∧
      report.counts.Printed a.format (run w argv).output := by
  obtain ⟨log, hselect, hvalue, h⟩ := h
  obtain ⟨hresult, texts, houts, hjson⟩ := check_of_analysed h
  have htask : task ⟨w, log⟩ a = check ⟨w, log⟩ a path := by
    -- The check has a verdict, so there is no failure to report.
    rw [task_check _ hlist hpath]
    rcases reported_cases ⟨w, log⟩ (check ⟨w, log⟩ a path) with heq | ⟨f, hf, _⟩
    · exact heq
    · rw [hresult] at hf
      cases hf
  have hrun : run w argv =
      ⟨header a ++ (check ⟨w, log⟩ a path).events, (check ⟨w, log⟩ a path).result⟩ := by
    rw [run_of_read w hread, perform_eq w hversion, hselect]
    simp only [hvalue, Bool.false_eq_true, if_false, htask]
  have houtput : (run w argv).output =
      String.join (outsOf (header a) ++ texts) ++ outcomeText a report := by
    change String.join (outsOf (run w argv).events) = _
    rw [hrun, outsOf_append, houts, ← List.append_assoc, String.join_append]
    rw [String.join_cons, String.join_nil, String.append_empty]
  rw [houtput]
  refine ⟨by rw [hrun, hresult], printed_outcomeText a report _ fun hformat => ?_⟩
  rw [hjson hformat, header, hformat]
  rfl

/-- The runs that get to the end of their analysis are those with the exit codes of a
    verdict. -/
theorem completes_iff : (∃ u report, Completes w a path u report) ↔
    (run w argv).result = .ok 0 ∨ (run w argv).result = .ok 1 := by
  constructor
  · rintro ⟨u, report, h⟩
    rw [(run_of_completes hread hversion hlist hpath h).1, Except.ok.injEq, Except.ok.injEq]
    exact exitCode_cases _ _ _
  · intro h
    rw [run_of_read w hread, perform_eq w hversion] at h
    cases hselect : LogSettings.select (logRequest w a) with
    | error complaint => simp only [hselect, reduceCtorEq, or_self] at h
    | ok log =>
        cases hvalue : a.valueless.contains .format with
        | true => simp only [hselect, hvalue, if_true, reduceCtorEq, or_self] at h
        | false =>
            simp only [hselect, hvalue, Bool.false_eq_true, if_false, task_check _ hlist hpath] at h
            rcases reported_cases ⟨w, log⟩ (check ⟨w, log⟩ a path) with heq | ⟨f, _, _, heq⟩
            · rw [heq] at h
              obtain ⟨u, report, hdone⟩ := h.elim analysed_of_check analysed_of_check
              exact ⟨u, report, log, hselect, hvalue, hdone⟩
            · -- What is reported as a failure has the exit code two.
              rw [heq] at h
              rcases h with h | h <;> cases h

end Run

/-! ### The same check again -/

/-- The options that are about how a check is presented. -/
def presentation : List OptionName :=
  [.workers, .format, .showWarnings, .logFormat, .logLevel]

/-- Two command lines ask for the same check: they differ in nothing but options about how it
    is presented. -/
structure Arguments.SameCheck (a a' : Arguments) : Prop where
  path : a'.path = a.path
  interpreter : a'.interpreter = a.interpreter
  settingsFile : a'.settingsFile = a.settingsFile
  rules : a'.rules = a.rules
  skipsSyntaxCheck : a'.skipsSyntaxCheck = a.skipsSyntaxCheck
  failOn : a'.failOn = a.failOn
  listsRules : a'.listsRules = a.listsRules
  showsVersion : a'.showsVersion = a.showsVersion
  valueless : ∀ name, name ∉ presentation → a'.valueless.contains name = a.valueless.contains name

/-- Two worlds have the same files and answer commands alike, with the same rules and the same
    lexer. Files may finish in another order, and the environment may be another one. -/
structure World.Shares (w w' : World) : Prop where
  files : w'.files = w.files
  runner : w'.runner = w.runner
  interpreter : w'.interpreter = w.interpreter
  registry : w'.registry = w.registry
  lexer : w'.lexer = w.lexer

/-- How a check is to be presented can be read: the log settings are known, and no option that
    is used for it is without its value. -/
def Presentable (w : World) (a : Arguments) : Prop :=
  (∃ log, LogSettings.select (logRequest w a) = .ok log) ∧
    a.valueless.contains .format = false ∧ a.valueless.contains .workers = false

/-- What a check is set up with, with another number of workers. -/
def Setup.withWorkers (u : Setup) (n : Int) : Setup :=
  { u with settings := { u.settings with workers := n } }

section Again

variable {s s' : Session} {a a' : Arguments} {path : Path} {u : Setup} {report : Report}

/-- A check that is made again is set up with the same, the number of workers aside. -/
theorem setUp_same (hsame : a.SameCheck a') (hshares : s.world.Shares s'.world)
    (h : (setUp s a path).result = .ok u) :
    ∃ n, (setUp s' a' path).result = .ok (u.withWorkers n) := by
  obtain ⟨hsettings, hrules, hfiles⟩ := setUp_eq_ok_iff.mp h
  obtain ⟨hsettingsFile, hfailOn, loaded, hload, hoverride⟩ := loadSettings_eq_ok_iff.mp hsettings
  -- Workers are all that the two command lines can disagree about.
  have hagain : override loaded a' =
      { override loaded a with workers := a'.workers.getD loaded.workers } := by
    simp only [override, hsame.interpreter, hsame.rules, hsame.skipsSyntaxCheck, hsame.failOn]
  refine ⟨a'.workers.getD loaded.workers, setUp_eq_ok_iff.mpr ⟨?_, ?_, ?_⟩⟩
  · refine loadSettings_eq_ok_iff.mpr ⟨?_, ?_, loaded, ?_, ?_⟩
    · rw [hsame.valueless _ (by decide), hsettingsFile]
    · rw [hsame.valueless _ (by decide), hfailOn]
    · rw [World.home, hshares.files, hsame.settingsFile]
      exact hload
    · rw [hagain, hoverride]
      rfl
  · rw [hshares.registry]
    exact hrules
  · rw [hshares.files]
    exact hfiles

theorem startInterpreter_same (hshares : s.world.Shares s'.world) (n : Int) :
    startInterpreter s' (u.withWorkers n).settings = startInterpreter s u.settings := by
  simp only [startInterpreter, Setup.withWorkers, hshares.interpreter, hshares.runner]

theorem pipeline_same (hshares : s.world.Shares s'.world) (i : Option Interpreter)
    (rules : List Rule) : pipeline s'.world i rules = pipeline s.world i rules := by
  simp only [pipeline, hshares.files, hshares.lexer]

/-- An analysis comes to the report on its files if no file ends it. Neither the number of
    workers nor the order in which files finish is in this. -/
theorem analyse_eq_ok_iff {i : Option Interpreter} (hvalue : a.valueless.contains .workers = false)
    (hworkers : 1 ≤ u.settings.workers)
    (hschedule : (s.world.schedule (distinct u.files)).Perm (distinct u.files)) :
    (analyse s a u.settings u.rules u.files i).result = .ok report ↔
      (pipeline s.world i u.rules).Completes u.files ∧
        (pipeline s.world i u.rules).reportOf (distinct u.files) = report := by
  obtain ⟨es, _, _, heq⟩ := analyse_eq s u i hvalue
  rw [heq]
  rcases analyze_cases (pipeline s.world i u.rules) s.world.schedule u.settings.workers u.files
    hworkers hschedule with ⟨hcomplete, order, _, hok⟩ | ⟨path, hpath, b, hrun, hb⟩
  · rw [hok, Except.ok.injEq]
    exact ⟨fun h => ⟨hcomplete, h⟩, fun h => h.2⟩
  · rw [hb]
    constructor
    · intro h
      cases h
    · rintro ⟨hcomplete, _⟩
      obtain ⟨r, hr⟩ := hcomplete path hpath
      rw [hrun] at hr
      cases hr

/-- A check that is made again gets as far as its files. -/
theorem started_same (hsame : a.SameCheck a') (hshares : s.world.Shares s'.world)
    (h : analysed s a path = .ok (u, report)) :
    ∃ n i, (setUp s' a' path).result = .ok (u.withWorkers n) ∧
      (startInterpreter s' (u.withWorkers n).settings).result = .ok i ∧
      (analyse s a u.settings u.rules u.files i).result = .ok report := by
  obtain ⟨hset, i, hstart, hreport⟩ := analysed_eq_ok_iff.mp h
  obtain ⟨n, hagain⟩ := setUp_same hsame hshares hset
  exact ⟨n, i, hagain, (congrArg Activity.result (startInterpreter_same hshares n)).trans hstart,
    hreport⟩

/-- A check that is made again comes to the same report. -/
theorem analysed_same (hsame : a.SameCheck a') (hshares : s.world.Shares s'.world)
    (hsound : a.IsSound) (hsound' : a'.IsSound) (hvalue : a'.valueless.contains .workers = false)
    (hschedule : ∀ paths, (s.world.schedule paths).Perm paths)
    (hschedule' : ∀ paths, (s'.world.schedule paths).Perm paths)
    (h : analysed s a path = .ok (u, report)) :
    ∃ n, analysed s' a' path = .ok (u.withWorkers n, report) := by
  obtain ⟨n, i, hset, hstart, hreport⟩ := started_same hsame hshares h
  have hvalueless : a.valueless.contains .workers = false := by
    -- Otherwise there would be no report to start from.
    by_contra hc
    rw [analyse_valueless ((Bool.not_eq_false _).mp hc)] at hreport
    cases hreport
  have hdone := (analyse_eq_ok_iff hvalueless
    (workers_of_setUp hsound (analysed_eq_ok_iff.mp h).1) (hschedule _)).mp hreport
  rw [← pipeline_same hshares] at hdone
  refine ⟨n, analysed_eq_ok_iff.mpr ⟨hset, i, hstart, ?_⟩⟩
  exact (analyse_eq_ok_iff hvalue (workers_of_setUp hsound' hset) (hschedule' _)).mpr hdone

/-- A check that would come to a report, but is asked for in a way that cannot be read, breaks
    down. -/
theorem run_not_presentable {w' : World} {argv' : List String}
    (hread : Arguments.read argv' = .ok a') (hversion : a'.showsVersion = false)
    (hlist : a'.listsRules = false) (hpath : a'.path = some path) (hsame : a.SameCheck a')
    (hshares : s.world.Shares w') (h : analysed s a path = .ok (u, report))
    (hunreadable : ¬ Presentable w' a') : ∃ b, (run w' argv').result = .error b := by
  rw [run_of_read w' hread, perform_eq w' hversion]
  cases hselect : LogSettings.select (logRequest w' a') with
  | error complaint => exact ⟨_, rfl⟩
  | ok log =>
      cases hformat : a'.valueless.contains .format with
      | true => exact ⟨_, rfl⟩
      | false =>
          have hworkers : a'.valueless.contains .workers = true := by
            by_contra hc
            exact hunreadable ⟨⟨log, hselect⟩, hformat, Bool.eq_false_iff.mpr hc⟩
          have hworld : s.world.Shares (Session.mk w' log).world := hshares
          -- It gets as far as its files, and then the number of workers is used.
          obtain ⟨n, i, hset, hstart, _⟩ := started_same hsame hworld h
          have hcheck : (check ⟨w', log⟩ a' path).result = .error (.valueless .number) := by
            obtain ⟨es, _, heq⟩ := carryOut_of_ok (a := a') hstart
            rw [check_result, hset]
            change (carryOut _ _ _).result = _
            rw [heq, analyse_valueless hworkers]
            rfl
          refine ⟨.valueless .number, ?_⟩
          simp only [Bool.false_eq_true, if_false, task_check _ hlist hpath]
          rcases reported_cases ⟨w', log⟩ (check ⟨w', log⟩ a' path) with heq | ⟨f, hf, _⟩
          · rw [heq, hcheck]
          · rw [hcheck] at hf
            cases hf

end Again

/-- What a run says of the report that its check has come to, by its exit code and by what it
    writes, and what any other run says that asks for the same check. -/
structure Verdict (w : World) (argv : List String) (a : Arguments) (u : Setup) (report : Report)
    (code : Int) : Prop where
  /-- The run comes to an exit code. -/
  result : (run w argv).result = .ok code
  /-- The policy is the one asked for, or else that of the settings. -/
  policy : ∃ loaded, Settings.load w.files a.settingsFile w.home = .ok loaded ∧
    u.settings.failOn = a.failOn.getD loaded.failOn
  /-- It is one if the policy has something to say against the findings. -/
  failed : code = 1 ↔ u.settings.failOn = .errors ∧ (∃ d ∈ report.all, d.isError = true) ∨
    u.settings.failOn = .warnings ∧ report.all ≠ []
  /-- It is zero if not. -/
  passed : code = 0 ∨ code = 1
  /-- What is written has the totals in it. -/
  printed : report.counts.Printed a.format (run w argv).output
  /-- The same check, presented in another way, comes to the same exit code and totals. -/
  again : ∀ w' argv' a', Arguments.read argv' = .ok a' → a.SameCheck a' → w.Shares w' →
    (∀ paths, (w'.schedule paths).Perm paths) → Presentable w' a' →
      (run w' argv').result = .ok code ∧
        report.counts.Printed a'.format (run w' argv').output
  /-- If it cannot be read how to present it, there is no exit code. -/
  unreadable : ∀ w' argv' a', Arguments.read argv' = .ok a' → a.SameCheck a' → w.Shares w' →
    ¬ Presentable w' a' → ∃ b, (run w' argv').result = .error b

/-- The exit code, the verdict and the totals of a check are those of its report, and they do
    not depend on how the check is presented, as long as that can be read. -/
theorem run_verdict (w : World) (argv : List String) (a : Arguments) (path : Path) (u : Setup)
    (report : Report) (hread : Arguments.read argv = .ok a) (hversion : a.showsVersion = false)
    (hlist : a.listsRules = false) (hpath : a.path = some path)
    (hschedule : ∀ paths, (w.schedule paths).Perm paths)
    (hcompletes : Completes w a path u report) : ∃ code, Verdict w argv a u report code := by
  obtain ⟨hresult, hprinted⟩ := run_of_completes hread hversion hlist hpath hcompletes
  obtain ⟨log, hselect, hvalue, hdone⟩ := hcompletes
  refine ⟨exitCode u.settings.failOn report.hasErrors report.hasWarnings, hresult, ?_,
    exitCode_eq_one_iff _ _, exitCode_cases _ _ _, hprinted, ?_, ?_⟩
  · obtain ⟨hset, _⟩ := analysed_eq_ok_iff.mp hdone
    obtain ⟨hsettings, _⟩ := setUp_eq_ok_iff.mp hset
    obtain ⟨_, _, loaded, hload, hoverride⟩ := loadSettings_eq_ok_iff.mp hsettings
    exact ⟨loaded, hload, congrArg Settings.failOn hoverride.symm⟩
  · rintro w' argv' a' hread' hsame hshares hschedule' ⟨⟨log', hselect'⟩, hformat, hworkers⟩
    have hworld : w.Shares (Session.mk w' log').world := hshares
    obtain ⟨n, hagain⟩ := analysed_same hsame hworld
      (Arguments.isSound_of_read hread) (Arguments.isSound_of_read hread') hworkers hschedule
      hschedule' hdone
    -- The number of workers is in the settings, but the policy is the same.
    have hcompletes : Completes w' a' path (u.withWorkers n) report :=
      ⟨log', hselect', hformat, hagain⟩
    have hrun := run_of_completes hread' (hsame.showsVersion.trans hversion)
      (hsame.listsRules.trans hlist) (hsame.path.trans hpath) hcompletes
    exact hrun
  · intro w' argv' a' hread' hsame hshares hunreadable
    exact run_not_presentable hread' (hsame.showsVersion.trans hversion)
      (hsame.listsRules.trans hlist) (hsame.path.trans hpath) hsame hshares hdone hunreadable

/-- A world with a file whose one line ends in a blank. -/
def untidy : World :=
  { cutOff with files :=
      ⟨⟨"/", ["home"]⟩, .directory [("home", .directory [("a.py", .file [49, 32, 10])])]⟩ }

/-- What a check of the file is asked for with, if the blank is to make it fail. -/
def untidyWords : List String :=
  ["a.py", "--no-syntax-check", "-r", "trailing-whitespace", "--fail-on", "warnings"]

/-- The same, read. -/
def untidyArguments : Arguments :=
  { Arguments.empty with
    path := some ⟨"", ["a.py"]⟩, skipsSyntaxCheck := true, rules := ["trailing-whitespace"]
    failOn := some .warnings }

/-- The same check, presented in another way. -/
def otherwiseWords : List String := untidyWords ++
  ["--format", "json", "--workers", "4", "--log-format", "json", "--log-level", "debug"]

/-- The same, read. -/
def otherwiseArguments : Arguments :=
  { untidyArguments with
    format := .json, workers := some 4, logFormat := some "json", logLevel := some "debug" }

/-- The blank makes the run fail, although the verdict is that all is well, and it does so
    too when the check is presented in another way. -/
theorem run_verdict_untidy :
    (run untidy untidyWords).result = .ok 1 ∧
      (⟨1, 0, 1⟩ : Counts).line = "OK (1 files, 0 errors, 1 warnings)" ∧
      (⟨1, 0, 1⟩ : Counts).Printed .text (run untidy untidyWords).output ∧
      (run untidy otherwiseWords).result = .ok 1 ∧
      (⟨1, 0, 1⟩ : Counts).Printed .json (run untidy otherwiseWords).output := by
  have hread : Arguments.read untidyWords = .ok untidyArguments := rfl
  have hread' : Arguments.read otherwiseWords = .ok otherwiseArguments := rfl
  have hschedule : ∀ paths, (untidy.schedule paths).Perm paths := fun paths => List.Perm.refl paths
  have hanalysed : ((analysed ⟨untidy, ⟨.text, 30, "warning"⟩⟩ untidyArguments
      ⟨"", ["a.py"]⟩).toOption.map fun x => (x.2.counts, x.1.settings.failOn)) =
        some (⟨1, 0, 1⟩, .warnings) := by
    decide +kernel
  cases hdone : analysed ⟨untidy, ⟨.text, 30, "warning"⟩⟩ untidyArguments ⟨"", ["a.py"]⟩ with
  | error b =>
      rw [hdone] at hanalysed
      cases hanalysed
  | ok x =>
      obtain ⟨u, report⟩ := x
      rw [hdone] at hanalysed
      obtain ⟨hcounts, hpolicy⟩ := Prod.mk.inj (Option.some.inj hanalysed)
      obtain ⟨code, hverdict⟩ := run_verdict untidy untidyWords untidyArguments ⟨"", ["a.py"]⟩ u
        report hread rfl rfl rfl hschedule ⟨_, rfl, rfl, hdone⟩
      have hcode : code = 1 := by
        refine hverdict.failed.mpr (.inr ⟨hpolicy, fun hnone => ?_⟩)
        have hwarnings : report.warningCount = 1 := congrArg Counts.warnings hcounts
        rw [Report.warningCount, hnone] at hwarnings
        cases hwarnings
      subst hcode
      have hsame : untidyArguments.SameCheck otherwiseArguments :=
        ⟨rfl, rfl, rfl, rfl, rfl, rfl, rfl, rfl, fun _ _ => rfl⟩
      obtain ⟨hagain, hprinted⟩ := hverdict.again untidy _ _ hread' hsame
        ⟨rfl, rfl, rfl, rfl, rfl⟩ hschedule ⟨⟨_, rfl⟩, rfl, rfl⟩
      rw [hcounts] at hprinted
      have hfirst := hverdict.printed
      rw [hcounts] at hfirst
      exact ⟨hverdict.result, rfl, hfirst, hagain, hprinted⟩

/-- A check in a world whose log format nobody knows comes to an exit code if it is asked for
    with a log format. The same check without one breaks down. -/
theorem run_fails_again_misled : ∃ argv argv' a a',
    argv = ["a.py", "--no-syntax-check", "-r", "trailing-whitespace", "--log-format", "text"] ∧
      argv' = ["a.py", "--no-syntax-check", "-r", "trailing-whitespace"] ∧
      Arguments.read argv = .ok a ∧ Arguments.read argv' = .ok a' ∧ a.SameCheck a' ∧
      (run misled argv).result.toOption = some 0 ∧
      (run misled argv').result = .error (.unknownWord "Unknown log format 'xml'") := by
  have hread : Arguments.read ["a.py", "--no-syntax-check", "-r", "trailing-whitespace"] =
      .ok { Arguments.empty with
        path := some ⟨"", ["a.py"]⟩, skipsSyntaxCheck := true, rules := ["trailing-whitespace"] } :=
    rfl
  have hword : (Vocabulary.ofWord? "xml" : Option LogFormat) = none := rfl
  refine ⟨_, _, _, _, rfl, rfl, rfl, hread,
    ⟨rfl, rfl, rfl, rfl, rfl, rfl, rfl, rfl, fun _ _ => rfl⟩, by decide +kernel, ?_⟩
  rw [run_unknown_format hread rfl rfl rfl (by decide) hword]
  rfl

end CommandLine

end TokenLint
