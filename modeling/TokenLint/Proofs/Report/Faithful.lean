import Mathlib.Data.List.TakeWhile
import TokenLint.Proofs.Report.Count
import TokenLint.Proofs.Report.Journal

/-!
# Faithful Reports

What a report promises to those who use it, whatever has been done with it
before. It keeps all findings that it has accepted, by file and in the order
of time. A call that it refuses has no effect, except that a list of findings
is taken up to the first that does not belong to the file. And its totals are
right, wherever they are read.

A report after some calls is its journal, sorted, so the promises about one
more call are facts about one more line in a journal. They are put together at
the end, for reports whose sinks are live references.

## Main definitions

* `Report.Session.Keeps`: The report has all that calls have come to.
* `Report.Session.Answers`: A call changes one file, or is refused.
* `Report.Session.Takes`: Several findings are taken up to a stray one.

## Theorems

* `Report.Session.keeps_run`: After any calls, a report has all of it.
* `Report.Journal.Orderly.answers`: What one call can do.
* `Report.Journal.takes_sorted`: What becomes of several findings.
* `Report.Filing.faithful`: Reports with live references do as promised.
-/

namespace TokenLint

namespace Report

/-- The report has all that calls have come to: each file once, in the order of first
    registration, and what was accepted about it, in the order of time. -/
structure Session.Keeps (s : Session) (calls : List Call) : Prop where
  files : s.report.files = (calls.filterMap Call.registered?).eraseDups
  nodup : s.report.files.Nodup
  known : (Journal.of calls).known = s.report.files
  handed : (Journal.of calls).handed = s.sinks
  findings : ∀ path ∈ s.report.files, s.report.diagnostics? (some path) =
    .ok ((Journal.of calls).accepted.filter (·.path = path))
  accepted : ∀ d ∈ (Journal.of calls).accepted, d.path ∈ s.report.files

/-- A call leaves the findings about all files but one as they are, changes nothing if it
    is refused for a file that is not known, and is refused for nothing else unless a
    finding is in the wrong list. -/
structure Session.Answers (s : Session) (call : Call) : Prop where
  frame : ∀ path ∈ s.report.files, s.subject call ≠ some path →
    (s.step call).1.report.diagnostics? (some path) = s.report.diagnostics? (some path)
  refused : ∀ path, call.needs = some path → path ∉ s.report.files →
    s.step call = (s, some ⟨path⟩)
  heard : (∀ path, call.needs = some path → path ∈ s.report.files) →
    (∀ path ds, call = .extend path ds → ∀ d ∈ ds, d.path = path) → (s.step call).2 = none

/-- Several findings are refused if and only if the file is not known or one of them is
    about another file. Then those before the first such one are there, and no other. -/
structure Session.Takes (s : Session) (path : Path) (ds : List Diagnostic) : Prop where
  refused_iff : (s.step (.extend path ds)).2.isSome = true ↔
    path ∉ s.report.files ∨ ∃ d ∈ ds, d.path ≠ path
  unknown : path ∉ s.report.files → s.step (.extend path ds) = (s, some ⟨path⟩)
  stray : path ∈ s.report.files → ∀ front d back, ds = front ++ d :: back →
    (∀ e ∈ front, e.path = path) → d.path ≠ path →
      (s.step (.extend path ds)).1.report.diagnostics? (some path) =
          .ok (s.report.findings path ++ front) ∧
        (s.step (.extend path ds)).2 = some ⟨d.path⟩
  whole : path ∈ s.report.files → (∀ d ∈ ds, d.path = path) →
    (s.step (.extend path ds)).1.report.diagnostics? (some path) =
        .ok (s.report.findings path ++ ds) ∧
      (s.step (.extend path ds)).2 = none

/-- Nothing can be learnt about a file that is not known. -/
theorem ask_unknown {r : Report} {path : Path} (h : path ∉ r.files) :
    r.diagnostics? (some path) = .error ⟨path⟩ ∧ r.errors? (some path) = .error ⟨path⟩ ∧
      r.warnings? (some path) = .error ⟨path⟩ ∧ r.status path = .error ⟨path⟩ := by
  have hbucket : r.bucket path = .error ⟨path⟩ := by
    rw [bucket, (Ordered.get?_eq_none_iff _ _).mpr h]
  rw [errors?, warnings?, status, diagnostics?, hbucket]
  exact ⟨rfl, rfl, rfl, rfl⟩

namespace Journal

variable {j : Journal} {path : Path}

theorem diagnostics?_sorted (h : path ∈ j.known) :
    j.sorted.report.diagnostics? (some path) = .ok (j.about path) := by
  rw [diagnostics?, bucket_sorted, if_pos h]

theorem findings_sorted (h : path ∈ j.known) :
    j.sorted.report.findings path = j.about path := by
  rw [findings, diagnostics?_sorted h]
  rfl

/-- A call adds what is accepted from it to the findings about a file. -/
theorem diagnostics?_step (h : j.Orderly) (hpath : path ∈ j.known) (call : Call) :
    (j.sorted.step call).1.report.diagnostics? (some path) =
      .ok (j.about path ++ (j.admits call).filter (·.path = path)) := by
  rw [sorted_step h, diagnostics?_sorted (known_subset_learns j call hpath), about, note,
    List.filter_append, about]

/-- What one call can do. -/
theorem Orderly.answers (h : j.Orderly) (call : Call) : j.sorted.Answers call where
  frame := by
    intro path hpath hsubject
    rw [files_sorted] at hpath
    have hnone : (j.admits call).filter (fun d => decide (d.path = path)) = [] :=
      List.filter_eq_nil_iff.mpr fun d hd hc =>
        hsubject (of_decide_eq_true hc ▸ subject_of_mem_admits hd)
    rw [diagnostics?_step h hpath, hnone, List.append_nil, diagnostics?_sorted hpath]
  refused := by
    intro path hneeds hpath
    rw [files_sorted] at hpath
    cases call with
    | addFile _ => cases hneeds
    | report _ _ => cases hneeds
    | add d =>
        cases hneeds
        rw [Session.step, Report.add, bucket_sorted, if_neg hpath]
        rfl
    | extend p ds =>
        cases hneeds
        rw [Session.step, Report.extend, bucket_sorted, if_neg hpath]
    | sink p rule =>
        cases hneeds
        rw [Session.step, Report.sink, bucket_sorted, if_neg hpath]
        rfl
    | ask p =>
        cases hneeds
        rw [Session.step, bucket_sorted, if_neg hpath]
  heard := by
    intro hneeds hextend
    have hknown : ∀ path, call.needs = some path → path ∈ j.known := fun path hp =>
      files_sorted j ▸ hneeds path hp
    cases call with
    | addFile _ => rfl
    | report k finding =>
        rw [Session.step]
        cases j.sorted.sinks[k]? <;> rfl
    | add d =>
        rw [Session.step, Report.add, bucket_sorted, if_pos (hknown _ rfl)]
        rfl
    | extend p ds =>
        have hfind : ds.find? (·.path ≠ p) = none :=
          List.find?_eq_none.mpr fun d hd hc =>
            of_decide_eq_true hc (hextend p ds rfl d hd)
        rw [Session.step, Report.extend, bucket_sorted, if_pos (hknown _ rfl), hfind]
        rfl
    | sink p rule =>
        rw [Session.step, Report.sink, bucket_sorted, if_pos (hknown _ rfl)]
        rfl
    | ask p => rw [Session.step, bucket_sorted, if_pos (hknown _ rfl)]

/-- A list of findings about a known file is complained about for the first stray one. -/
theorem extend_fault (h : path ∈ j.known) (ds : List Diagnostic) :
    (j.sorted.step (.extend path ds)).2 =
      (ds.find? (·.path ≠ path)).map fun d => ⟨d.path⟩ := by
  rw [Session.step, Report.extend, bucket_sorted, if_pos h]

/-- What becomes of a list of findings about a known file. -/
theorem diagnostics?_extend (h : j.Orderly) (hpath : path ∈ j.known) (ds : List Diagnostic) :
    (j.sorted.step (.extend path ds)).1.report.diagnostics? (some path) =
      .ok (j.about path ++ ds.takeWhile (·.path = path)) := by
  have hall : (ds.takeWhile (·.path = path)).filter (·.path = path) =
      ds.takeWhile (·.path = path) :=
    List.filter_eq_self.mpr fun d hd => List.all_eq_true.mp List.all_takeWhile d hd
  rw [diagnostics?_step h hpath, admits, if_pos hpath, hall]

/-- Several findings are taken up to a stray one. -/
theorem takes_sorted (h : j.Orderly) (path : Path) (ds : List Diagnostic) :
    j.sorted.Takes path ds where
  refused_iff := by
    rw [files_sorted]
    by_cases hpath : path ∈ j.known
    · rw [extend_fault hpath, Option.isSome_map, List.find?_isSome]
      simp only [decide_eq_true_eq, hpath, not_true_eq_false, false_or]
    · rw [((h.answers (.extend path ds)).refused path rfl (files_sorted j ▸ hpath))]
      exact iff_of_true rfl (.inl hpath)
  unknown := (h.answers (.extend path ds)).refused path rfl
  stray := by
    rintro hpath front d back rfl hfront hd
    rw [files_sorted] at hpath
    have hall : ∀ e ∈ front, decide (e.path = path) = true := fun e he =>
      decide_eq_true (hfront e he)
    have hnone : front.find? (·.path ≠ path) = none :=
      List.find?_eq_none.mpr fun e he hc => of_decide_eq_true hc (hfront e he)
    rw [diagnostics?_extend h hpath, extend_fault hpath, findings_sorted hpath,
      List.takeWhile_append_of_pos hall, List.takeWhile_cons_of_neg (by simpa using hd),
      List.append_nil, List.find?_append, hnone, List.find?_cons_of_pos (by simpa using hd)]
    exact ⟨rfl, rfl⟩
  whole := by
    intro hpath hall
    have htake : ds.takeWhile (·.path = path) = ds :=
      List.takeWhile_eq_self_iff.mpr fun d hd => decide_eq_true (hall d hd)
    refine ⟨?_, (h.answers (.extend path ds)).heard ?_ ?_⟩
    · rw [files_sorted] at hpath
      rw [diagnostics?_extend h hpath, findings_sorted hpath, htake]
    · rintro _ ⟨⟩
      exact hpath
    · rintro _ _ ⟨⟩
      exact hall

end Journal

/-- After any calls, a report has all that they have come to. -/
theorem Session.keeps_run (calls : List Call) : (run calls).Keeps calls := by
  have horderly := Journal.orderly_of calls
  rw [run_eq]
  have hfiles := (Journal.of calls).files_sorted
  exact {
    files := hfiles.trans (Journal.known_of calls)
    nodup := hfiles ▸ horderly.nodup
    known := hfiles.symm
    handed := rfl
    findings := fun path hpath => Journal.diagnostics?_sorted (hfiles ▸ hpath)
    accepted := fun d hd => hfiles ▸ horderly.accepted d hd }

/-- A report with live references does as promised, after any calls. It looks the same as
    one without, it has all that the calls have come to, every further call and every
    question is answered as it should be, and all counts agree. -/
theorem Filing.faithful (calls : List Call) :
    (run calls).session = Session.run calls ∧
      (∀ call, ((run calls).step call).2 = ((Session.run calls).step call).2) ∧
      (run calls).session.Keeps calls ∧
      (∀ call, (run calls).session.Answers call) ∧
      (∀ path ds, (run calls).session.Takes path ds) ∧
      (∀ path ∉ (run calls).session.report.files,
        (run calls).session.report.diagnostics? (some path) = .error ⟨path⟩ ∧
          (run calls).session.report.errors? (some path) = .error ⟨path⟩ ∧
          (run calls).session.report.warnings? (some path) = .error ⟨path⟩ ∧
          (run calls).session.report.status path = .error ⟨path⟩) ∧
      (run calls).session.report.AddsUp := by
  have horderly := Journal.orderly_of calls
  have hstep : ∀ call, ((run calls).step call).2 = ((run calls).session.step call).2 :=
    fun call => congrArg Prod.snd (session_step (sound_run calls) call)
  have hkeeps := Session.keeps_run calls
  have hrun := session_run calls
  rw [hrun] at hstep ⊢
  refine ⟨rfl, hstep, hkeeps, ?_, ?_, fun path => ask_unknown, addsUp hkeeps.nodup⟩
  · rw [Session.run_eq]
    exact horderly.answers
  · rw [Session.run_eq]
    exact Journal.takes_sorted horderly

/-- A finding about the line of a file. -/
def noteOn (name : String) (line : Int) : Diagnostic :=
  ⟨⟨"", [name]⟩, .error, line, 1, "note", .rule, none⟩

/-- Calls among which two are refused, and a sink for one file outlives the registration
    of another and its own file's second one. -/
def interleaved : List Call :=
  [.sink ⟨"", ["a"]⟩ none, .addFile ⟨"", ["a"]⟩, .sink ⟨"", ["a"]⟩ none, .add (noteOn "b" 1),
    .addFile ⟨"", ["b"]⟩, .report 0 ⟨.error, 2, 1, "note"⟩, .addFile ⟨"", ["a"]⟩,
    .report 0 ⟨.error, 3, 1, "note"⟩]

/-- The sink keeps to its file, and a list with a finding about the other file in it is
    taken up to that. -/
theorem Filing.faithful_interleaved :
    (run interleaved).session.report.diagnostics? (some ⟨"", ["a"]⟩) =
        .ok [noteOn "a" 2, noteOn "a" 3] ∧
      (run interleaved).session.report.diagnostics? (some ⟨"", ["b"]⟩) = .ok [] ∧
      ((run interleaved).session.step (.extend ⟨"", ["a"]⟩
          [noteOn "a" 4, noteOn "b" 5, noteOn "a" 6])).1.report.diagnostics? (some ⟨"", ["a"]⟩) =
        .ok [noteOn "a" 2, noteOn "a" 3, noteOn "a" 4] ∧
      ((run interleaved).session.step (.extend ⟨"", ["a"]⟩
          [noteOn "a" 4, noteOn "b" 5, noteOn "a" 6])).2 = some ⟨⟨"", ["b"]⟩⟩ := by
  rcases faithful interleaved with ⟨_, _, hkeeps, _, htakes, _⟩
  have ha : ⟨"", ["a"]⟩ ∈ (run interleaved).session.report.files := by
    rw [hkeeps.files]
    decide
  have hb : ⟨"", ["b"]⟩ ∈ (run interleaved).session.report.files := by
    rw [hkeeps.files]
    decide
  have hstray := (htakes _ [noteOn "a" 4, noteOn "b" 5, noteOn "a" 6]).stray ha
    [noteOn "a" 4] (noteOn "b" 5) [noteOn "a" 6] rfl (by decide) (by decide)
  rw [findings, hkeeps.findings _ ha] at hstray
  exact ⟨hkeeps.findings _ ha, hkeeps.findings _ hb, hstray⟩

end Report

end TokenLint
