import TokenLint.Proofs.Analysis.Schedule

/-!
# How Far an Analysis Gets

A run over files that one of them ends has looked at some of the files by
then: those that have finished, and the one that has ended it. They are an
initial piece of the order in which files are taken up, which with one worker
is the order in which they were given. What the run comes to is what that one
file has come to.

This complements what is known of runs that no file ends. Of those it is known
what they come to; here it is what was done before, which includes everything
that cannot be undone, such as starting commands.

## Main definitions

* `Sweep.seen`: The files that were looked at, as far as somebody was told.

## Theorems

* `Pipeline.seen_runInTurn`, `Pipeline.seen_runPool`: An initial piece of the
  files that were given.
* `Pipeline.runInTurn_stopped`, `Pipeline.runPool_stopped`: A run that fails
  fails with a file that ends it.
* `seen_analyze`: An initial piece of some order of the files.
* `analyze_cases`: A run comes to the report on all files, or to what the file
  that ends it has come to.
-/

namespace TokenLint

/-- The files that were looked at: those that have finished, and then the one that has
    ended the run. -/
def Sweep.seen {α : Type} (s : Sweep α) : List Path :=
  s.finished.map (·.path) ++ s.stoppedAt.toList

/-- A run that a listener breaks off has looked at the files that were told of. -/
theorem Sweep.seen_broken {α : Type} (told : List FileReport) (b : Breakdown) (paths : List Path) :
    (⟨told, none, .error b⟩ : Sweep α).seen <+: told.map (·.path) ++ paths := by
  rw [seen, Option.toList_none, List.append_nil]
  exact List.prefix_append _ _

namespace Pipeline

variable (p : Pipeline)

/-- The files that were looked at one after the other are an initial piece of all. -/
theorem seen_runInTurn (listen : Listener) (told : List FileReport) (whole : Report)
    (paths : List Path) :
    (p.runInTurn listen told whole paths).seen <+: told.map (·.path) ++ paths := by
  induction paths generalizing told whole with
  | nil => exact List.prefix_rfl
  | cons path paths ih =>
      have hcons : told.map (·.path) ++ path :: paths = (told.map (·.path) ++ [path]) ++ paths := by
        rw [List.append_assoc, List.singleton_append]
      rw [runInTurn, hcons]
      cases hr : p.run path with
      | error b => exact List.prefix_append _ _
      | ok r =>
          have htold : (told ++ [r]).map (·.path) = told.map (·.path) ++ [path] := by
            rw [List.map_append, List.map_singleton, p.path_of_run hr]
          simp only
          cases listen (told ++ [r]) with
          | some b => exact htold ▸ Sweep.seen_broken (told ++ [r]) b paths
          | none =>
              cases whole.enter path r.diagnostics with
              | error b => exact htold ▸ Sweep.seen_broken (told ++ [r]) b paths
              | ok whole => exact htold ▸ ih (told ++ [r]) whole

/-- The files that were looked at several at a time are an initial piece of all, in the
    order in which they finish. -/
theorem seen_runPool (listen : Listener) (told : List FileReport)
    (kept : List (Path × FileReport)) (paths : List Path) :
    (p.runPool listen told kept paths).seen <+: told.map (·.path) ++ paths := by
  induction paths generalizing told kept with
  | nil => exact List.prefix_rfl
  | cons path paths ih =>
      have hcons : told.map (·.path) ++ path :: paths = (told.map (·.path) ++ [path]) ++ paths := by
        rw [List.append_assoc, List.singleton_append]
      rw [runPool, hcons]
      cases hr : p.run path with
      | error b => exact List.prefix_append _ _
      | ok r =>
          have htold : (told ++ [r]).map (·.path) = told.map (·.path) ++ [path] := by
            rw [List.map_append, List.map_singleton, p.path_of_run hr]
          simp only
          cases listen (told ++ [r]) with
          | some b => exact htold ▸ Sweep.seen_broken (told ++ [r]) b paths
          | none => exact htold ▸ ih (told ++ [r]) _

/-- Files one after the other that nobody breaks off fail with a file that ends the run. -/
theorem runInTurn_stopped (told : List FileReport) (whole : Report) (paths : List Path)
    (hnodup : (whole.files ++ paths).Nodup) {b : Breakdown}
    (h : (p.runInTurn .silent told whole paths).result = .error b) :
    ∃ path ∈ paths, p.run path = .error b := by
  induction paths generalizing told whole with
  | nil => cases h
  | cons path paths ih =>
      rw [runInTurn] at h
      cases hr : p.run path with
      | error b' =>
          rw [hr] at h
          exact ⟨path, List.mem_cons_self, Except.error.inj h ▸ hr⟩
      | ok r =>
          rcases p.enter_of_run hr hnodup with ⟨whole', henter, _, hrest⟩
          rw [hr] at h
          simp only [Listener.silent, henter] at h
          rcases ih _ _ hrest h with ⟨q, hq, hb⟩
          exact ⟨q, List.mem_cons_of_mem path hq, hb⟩

/-- Files several at a time that nobody breaks off fail with a file that ends the run. -/
theorem runPool_stopped (told : List FileReport) (kept : List (Path × FileReport))
    (paths : List Path) {b : Breakdown}
    (h : (p.runPool .silent told kept paths).result = .error b) :
    ∃ path ∈ paths, p.run path = .error b := by
  induction paths generalizing told kept with
  | nil => cases h
  | cons path paths ih =>
      rw [runPool] at h
      cases hr : p.run path with
      | error b' =>
          rw [hr] at h
          exact ⟨path, List.mem_cons_self, Except.error.inj h ▸ hr⟩
      | ok r =>
          rw [hr] at h
          rcases ih _ _ h with ⟨q, hq, hb⟩
          exact ⟨q, List.mem_cons_of_mem path hq, hb⟩

end Pipeline

section Run

variable (p : Pipeline) (schedule : List Path → List Path) (workers : Int) (files : List Path)

/-- The files that were looked at are an initial piece of some order of the files, which
    is their own with one worker. -/
theorem seen_analyze (hschedule : (schedule (distinct files)).Perm (distinct files)) :
    ∃ order, order.Perm (distinct files) ∧ (workers = 1 → order = distinct files) ∧
      (analyze p schedule workers files).seen <+: order := by
  rw [analyze, analyzeWith]
  by_cases hworkers : workers < 1
  · rw [if_pos hworkers]
    exact ⟨distinct files, List.Perm.refl _, fun _ => rfl, List.nil_prefix⟩
  · rw [if_neg hworkers]
    by_cases hturn : workers = 1 ∨ (distinct files).length ≤ 1
    · rw [if_pos hturn]
      exact ⟨distinct files, List.Perm.refl _, fun _ => rfl,
        p.seen_runInTurn .silent [] .empty (distinct files)⟩
    · rw [if_neg hturn]
      exact ⟨schedule (distinct files), hschedule, fun hone => absurd (.inl hone) hturn,
        p.seen_runPool .silent [] [] (schedule (distinct files))⟩

/-- A run comes to the report on all files, none of which ends it, or to what the file
    that ends it has come to. -/
theorem analyze_cases (hworkers : 1 ≤ workers)
    (hschedule : (schedule (distinct files)).Perm (distinct files)) :
    (p.Completes files ∧ ∃ order, order.Perm (distinct files) ∧
      analyze p schedule workers files =
        ⟨p.reports order, none, .ok (p.reportOf (distinct files))⟩) ∨
    ∃ path ∈ files, ∃ b, p.run path = .error b ∧
      (analyze p schedule workers files).result = .error b := by
  by_cases hcomplete : p.Completes files
  · exact .inl ⟨hcomplete,
      analyzeWith_eq .silent p schedule workers files hworkers (.inr hschedule) hcomplete fun _ => rfl⟩
  · have hbad : ∃ path ∈ files, ∃ b, p.run path = .error b := by
      refine Classical.byContradiction fun hnone => hcomplete fun path hpath => ?_
      cases hr : p.run path with
      | ok r => exact ⟨r, rfl⟩
      | error b => exact absurd ⟨path, hpath, b, hr⟩ hnone
    rcases analyzeWith_error .silent p schedule workers files hworkers (.inr hschedule) hbad with
      ⟨b, hb⟩
    suffices hfile : ∃ path ∈ distinct files, p.run path = .error b by
      rcases hfile with ⟨path, hpath, hrun⟩
      exact .inr ⟨path, (mem_distinct path files).mp hpath, b, hrun, hb⟩
    rw [analyzeWith, if_neg (Int.not_lt.mpr hworkers)] at hb
    by_cases hturn : workers = 1 ∨ (distinct files).length ≤ 1
    · rw [if_pos hturn] at hb
      exact p.runInTurn_stopped [] .empty _ (nodup_distinct files) hb
    · rcases hbad with ⟨path, hpath, hrun⟩
      have hscheduled : path ∈ schedule (distinct files) :=
        hschedule.mem_iff.mpr ((mem_distinct path files).mpr hpath)
      rcases p.runPool_error .silent [] [] _ ⟨path, hscheduled, hrun⟩ with ⟨b', hpool⟩
      rw [if_neg hturn] at hb
      simp only [hpool, Except.bind, Except.error.injEq] at hb
      rcases p.runPool_stopped [] [] _ hpool with ⟨path, hpath, hrun⟩
      exact ⟨path, hschedule.mem_iff.mp hpath, hb ▸ hrun⟩

end Run

end TokenLint
