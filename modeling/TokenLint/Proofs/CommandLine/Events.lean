import TokenLint.CommandLine.Run
import TokenLint.Proofs.Analysis.Halting

/-!
# Events of an Analysis

What an analysis does to the world is a list of events, and most of them are
log records. What is left of a file is little: one command if there is an
interpreter to check it with, and at most one reading. `Shows` says so of a
list of events and the files that they are about, and it adds up, so that each
stage of an analysis can be looked at alone.

The files that an analysis has to do with are those that it was told of, the
one that ended it, and, with several workers, those under way by then. No file
is among them twice.

## Main definitions

* `commandsOf`, `readsOf`, `outsOf`: The events of one kind.
* `Quiet`: Events that are log records and complaints.
* `Shows`: Events that are of one look at each of some files.
* `CommandLine.looked`: The files that an analysis has to do with.

## Theorems

* `Activity.bind_of_ok`, `Activity.bind_of_error`: One activity after another.
* `CommandLine.Session.shows_fileEvents`: A file that has finished.
* `CommandLine.Session.shows_progressEvents`: Files that have finished.
* `CommandLine.shows_lateEvents`: A file that nobody is told of.
* `CommandLine.looked_spec`: The files that an analysis has to do with are files
  of the run, each once.
* `CommandLine.analyse_eq`: An analysis looks at each of them once.
-/

namespace TokenLint

namespace Activity

variable {α β : Type}

/-- After an activity that comes to a value the next one follows. -/
theorem bind_of_ok {x : Activity α} {a : α} (h : x.result = .ok a) (f : α → Activity β) :
    x >>= f = ⟨x.events ++ (f a).events, (f a).result⟩ := by
  change Activity.bind x f = _
  rw [Activity.bind, h]

/-- After an activity that breaks down there is no next one. -/
theorem bind_of_error {x : Activity α} {b : Breakdown} (h : x.result = .error b)
    (f : α → Activity β) : x >>= f = ⟨x.events, .error b⟩ := by
  change Activity.bind x f = _
  rw [Activity.bind, h]

/-- What activities come to, one after the other. -/
theorem result_bind (x : Activity α) (f : α → Activity β) :
    (x >>= f).result = x.result.bind fun a => (f a).result := by
  cases h : x.result with
  | error b => rw [bind_of_error h]; rfl
  | ok a => rw [bind_of_ok h]; rfl

theorem pure_eq (a : α) : (Pure.pure a : Activity α) = ⟨[], .ok a⟩ := rfl

/-- Events come before those of what follows. -/
theorem emit_bind (events : List Event) (f : Unit → Activity β) :
    emit events >>= f = ⟨events ++ (f ()).events, (f ()).result⟩ :=
  bind_of_ok rfl f

end Activity

/-- The commands among events. -/
def commandsOf (es : List Event) : List (List String) :=
  es.filterMap fun
    | .command argv => some argv
    | _ => none

/-- The files that are read among events. -/
def readsOf (es : List Event) : List Path :=
  es.filterMap fun
    | .read path => some path
    | _ => none

/-- The texts that are written among events. -/
def outsOf (es : List Event) : List String :=
  es.filterMap fun
    | .out s => some s
    | _ => none

/-- Events that are log records and complaints. -/
def Quiet (es : List Event) : Prop := ∀ e ∈ es, ∃ s, e = .err s

theorem quiet_nil : Quiet [] := fun _ h => absurd h List.not_mem_nil

theorem Quiet.append {es fs : List Event} (h : Quiet es) (h' : Quiet fs) : Quiet (es ++ fs) :=
  fun e he => (List.mem_append.mp he).elim (h e) (h' e)

/-- Of quiet events nothing is left that log records have nothing of. -/
theorem Quiet.filterMap_eq_nil {α : Type} {es : List Event} (h : Quiet es) (p : Event → Option α)
    (hp : ∀ s, p (.err s) = none) : es.filterMap p = [] := by
  rw [List.filterMap_eq_nil_iff]
  intro e he
  rcases h e he with ⟨s, rfl⟩
  exact hp s

theorem Quiet.outsOf_eq {es : List Event} (h : Quiet es) : outsOf es = [] :=
  h.filterMap_eq_nil _ fun _ => rfl

theorem commandsOf_append (es fs : List Event) :
    commandsOf (es ++ fs) = commandsOf es ++ commandsOf fs :=
  List.filterMap_append

theorem readsOf_append (es fs : List Event) : readsOf (es ++ fs) = readsOf es ++ readsOf fs :=
  List.filterMap_append

theorem outsOf_append (es fs : List Event) : outsOf (es ++ fs) = outsOf es ++ outsOf fs :=
  List.filterMap_append

/-- Log records are neither commands nor readings. -/
theorem Quiet.still {es : List Event} (h : Quiet es) : commandsOf es = [] ∧ readsOf es = [] :=
  ⟨h.filterMap_eq_nil _ fun _ => rfl, h.filterMap_eq_nil _ fun _ => rfl⟩

/-- The commands that check files, if there is an interpreter to check them with. -/
def checksOf (interpreter : Option Interpreter) (paths : List Path) : List (List String) :=
  interpreter.elim [] fun i => paths.map i.checkCommand

/-- Events that are of one look at each of some files: each is checked if files are, and
    no other command is started, and some of them are read. -/
structure Shows (es : List Event) (interpreter : Option Interpreter) (paths : List Path) :
    Prop where
  commands : commandsOf es = checksOf interpreter paths
  reads : (readsOf es).Sublist paths

namespace Shows

variable {es fs : List Event} {interpreter : Option Interpreter} {paths others : List Path}

theorem append (h : Shows es interpreter paths) (h' : Shows fs interpreter others) :
    Shows (es ++ fs) interpreter (paths ++ others) where
  commands := by
    rw [commandsOf_append, h.commands, h'.commands]
    cases interpreter with
    | none => rfl
    | some i => exact List.map_append.symm
  reads := by
    rw [readsOf_append]
    exact h.reads.append h'.reads

theorem of_quiet (h : Quiet es) (interpreter : Option Interpreter) : Shows es interpreter [] where
  commands := by
    rw [h.still.1]
    cases interpreter <;> rfl
  reads := List.sublist_nil.mpr h.still.2

/-- Log records around what is shown change nothing. -/
theorem append_quiet (h : Shows es interpreter paths) (hfs : Quiet fs) :
    Shows (es ++ fs) interpreter paths :=
  List.append_nil paths ▸ h.append (of_quiet hfs interpreter)

theorem flatMap {f : Path → List Event}
    (h : ∀ path ∈ paths, Shows (f path) interpreter [path]) :
    Shows (paths.flatMap f) interpreter paths := by
  induction paths with
  | nil => exact of_quiet quiet_nil interpreter
  | cons path paths ih =>
      exact (h path List.mem_cons_self).append
        (ih fun q hq => h q (List.mem_cons_of_mem path hq))

/-- Signs of progress are neither commands nor readings. -/
theorem signs (interpreter : Option Interpreter) (signs : List String) :
    Shows (signs.map .out) interpreter [] where
  commands := by
    have hnone : commandsOf (signs.map .out) = [] := by
      rw [commandsOf, List.filterMap_map]
      exact List.filterMap_eq_nil_iff.mpr fun _ _ => rfl
    rw [hnone]
    cases interpreter <;> rfl
  reads := by
    have hnone : readsOf (signs.map .out) = [] := by
      rw [readsOf, List.filterMap_map]
      exact List.filterMap_eq_nil_iff.mpr fun _ _ => rfl
    exact List.sublist_nil.mpr hnone

end Shows

namespace CommandLine

namespace Session

variable (s : Session)

theorem quiet_logged (r : LogRecord) : Quiet (s.logged r) := by
  intro e he
  rw [logged] at he
  split at he
  · exact ⟨_, List.mem_singleton.mp he⟩
  · exact absurd he List.not_mem_nil

theorem quiet_loggedFile (logger : String) (component : LogComponent) (level : LogLevel)
    (path : Path) (message : String) (more : LogFields) :
    Quiet (s.loggedFile logger component level path message more) :=
  s.quiet_logged _

theorem quiet_failureEvents (path : Path) (runs : List (String × RuleRun)) :
    Quiet (runs.flatMap (s.failureEvents path)) := by
  intro e he
  rcases List.mem_flatMap.mp he with ⟨run, _, he⟩
  rw [failureEvents] at he
  split at he
  · exact absurd he List.not_mem_nil
  · exact s.quiet_loggedFile _ _ _ _ _ _ e he

/-- The pre-check of a file is one command. -/
theorem checkEvents_eq (i : Interpreter) (path : Path) :
    ∃ es, Quiet es ∧ s.checkEvents i path = .command (i.checkCommand path) :: es := by
  refine ⟨_, ?_, rfl⟩
  split
  · exact quiet_nil
  · split
    · exact quiet_nil
    · exact s.quiet_loggedFile _ _ _ _ _ _

/-- The pre-check of a file, if there is one, and what follows, which reads the file at
    most. -/
theorem shows_checked (interpreter : Option Interpreter) (path : Path) {es : List Event}
    (hcommands : commandsOf es = []) (hreads : (readsOf es).Sublist [path]) :
    Shows ((interpreter.elim [] fun i => s.checkEvents i path) ++ es) interpreter [path] := by
  cases interpreter with
  | none => exact ⟨hcommands, hreads⟩
  | some i =>
      rcases s.checkEvents_eq i path with ⟨fs, hfs, hcheck⟩
      have hquiet : commandsOf (fs ++ es) = [] ∧ readsOf (fs ++ es) = readsOf es := by
        rw [commandsOf_append, readsOf_append, hfs.still.1, hfs.still.2]
        exact ⟨hcommands, rfl⟩
      rw [Option.elim_some, hcheck, List.cons_append]
      exact ⟨congrArg _ hquiet.1, hquiet.2 ▸ hreads⟩

/-- After the pre-check a file is read at most. -/
theorem stageEvents_eq (path : Path) (outcome : FileOutcome) :
    Quiet (s.stageEvents path outcome) ∨
      ∃ es, Quiet es ∧ s.stageEvents path outcome = .read path :: es := by
  cases outcome with
  | rejected report => exact .inl quiet_nil
  | unreadable fault => exact .inr ⟨_, s.quiet_loggedFile _ _ _ _ _ _, rfl⟩
  | untokenizable r => exact .inr ⟨_, quiet_nil, rfl⟩
  | checked size runs =>
      exact .inr ⟨_, (s.quiet_loggedFile _ _ _ _ _ _).append (s.quiet_failureEvents path runs), rfl⟩

/-- A file that has finished was looked at once. -/
theorem shows_fileEvents (interpreter : Option Interpreter) (r : FileReport) :
    Shows (s.fileEvents interpreter r) interpreter [r.path] := by
  refine Shows.append_quiet ?_ (s.quiet_loggedFile _ _ _ _ _ _)
  rcases s.stageEvents_eq r.path r.outcome with hquiet | ⟨es, hquiet, hread⟩
  · refine s.shows_checked interpreter r.path hquiet.still.1 ?_
    rw [hquiet.still.2]
    exact List.nil_sublist _
  · rw [hread]
    refine s.shows_checked interpreter r.path hquiet.still.1 ?_
    have hreads : readsOf (.read r.path :: es) = [r.path] :=
      congrArg (r.path :: ·) hquiet.still.2
    exact hreads.symm ▸ List.Sublist.refl [r.path]

/-- Files that have finished were looked at once each. -/
theorem shows_progressEvents (interpreter : Option Interpreter) (progress : Option Progress)
    (rs : List FileReport) :
    Shows (s.progressEvents interpreter progress rs) interpreter (rs.map (·.path)) := by
  induction rs generalizing progress with
  | nil =>
      rw [progressEvents]
      exact Shows.of_quiet quiet_nil interpreter
  | cons r rs ih =>
      cases progress with
      | none => exact (s.shows_fileEvents interpreter r).append (ih none)
      | some p =>
          exact ((s.shows_fileEvents interpreter r).append (Shows.signs interpreter _)).append
            (ih _)

/-- The pre-check of a file writes nothing. -/
theorem outsOf_checked (interpreter : Option Interpreter) (path : Path) :
    outsOf (interpreter.elim [] fun i => s.checkEvents i path) = [] := by
  cases interpreter with
  | none => rfl
  | some i =>
      rcases s.checkEvents_eq i path with ⟨es, hes, hcheck⟩
      rw [Option.elim_some, hcheck]
      exact hes.outsOf_eq

/-- What is done with files writes nothing. -/
theorem outsOf_fileEvents (interpreter : Option Interpreter) (r : FileReport) :
    outsOf (s.fileEvents interpreter r) = [] := by
  have hstage : outsOf (s.stageEvents r.path r.outcome) = [] := by
    rcases s.stageEvents_eq r.path r.outcome with hquiet | ⟨es, hquiet, hread⟩
    · exact hquiet.outsOf_eq
    · rw [hread]
      exact hquiet.outsOf_eq
  rw [fileEvents, outsOf_append, outsOf_append, s.outsOf_checked, hstage,
    (s.quiet_loggedFile _ _ _ _ _ _).outsOf_eq]
  rfl

theorem outsOf_progressEvents (interpreter : Option Interpreter) (rs : List FileReport) :
    outsOf (s.progressEvents interpreter none rs) = [] := by
  induction rs with
  | nil => rfl
  | cons r rs ih => rw [progressEvents, outsOf_append, s.outsOf_fileEvents, ih, List.nil_append]

end Session

/-- A file that nobody is told of is looked at once. -/
theorem shows_lateEvents (s : Session) (interpreter : Option Interpreter) (p : Pipeline)
    (path : Path) : Shows (lateEvents s interpreter p path) interpreter [path] := by
  rw [lateEvents]
  cases hr : p.run path with
  | ok r => exact p.path_of_run hr ▸ s.shows_fileEvents interpreter r
  | error b =>
      refine s.shows_checked interpreter path ?_ ?_
      · cases p.reportOn path with
        | error f => rfl
        | ok report => cases report <;> rfl
      · cases p.reportOn path with
        | error f => exact List.nil_sublist _
        | ok report =>
            cases report with
            | none => exact List.Sublist.refl [path]
            | some report => exact List.nil_sublist _

theorem outsOf_lateEvents (s : Session) (interpreter : Option Interpreter) (p : Pipeline)
    (path : Path) : outsOf (lateEvents s interpreter p path) = [] := by
  rw [lateEvents]
  cases p.run path with
  | ok r => exact s.outsOf_fileEvents interpreter r
  | error b =>
      simp only
      rw [outsOf_append, s.outsOf_checked, List.nil_append]
      cases p.reportOn path with
      | error f => rfl
      | ok report => cases report <;> rfl

/-- The files that an analysis has to do with: those that it looks at until it ends, and
    those that are under way by then. -/
def looked (s : Session) (u : Setup) (interpreter : Option Interpreter) : List Path :=
  let analysis := analyze (pipeline s.world interpreter u.rules) s.world.schedule
    u.settings.workers u.files
  analysis.seen ++ stragglers s.world u.settings.workers u.files analysis

/-- No file is among them twice, and they are files of the run. With one worker they are
    the first ones. -/
theorem looked_spec (s : Session) (u : Setup) (interpreter : Option Interpreter)
    (hschedule : (s.world.schedule (distinct u.files)).Perm (distinct u.files)) :
    (looked s u interpreter).Nodup ∧ looked s u interpreter ⊆ u.files ∧
      (u.settings.workers = 1 → looked s u interpreter <+: distinct u.files) := by
  rw [looked]
  generalize hanalysis : analyze (pipeline s.world interpreter u.rules) s.world.schedule
    u.settings.workers u.files = analysis
  rcases seen_analyze (pipeline s.world interpreter u.rules) s.world.schedule u.settings.workers
    u.files hschedule with ⟨order, horder, hone, hseen⟩
  rw [hanalysis] at hseen
  have hnodup : order.Nodup := horder.nodup_iff.mpr (nodup_distinct u.files)
  have hlate : ∀ path ∈ stragglers s.world u.settings.workers u.files analysis,
      path ∈ distinct u.files ∧ path ∉ analysis.seen := by
    intro path hpath
    rw [stragglers] at hpath
    split at hpath
    · exact absurd hpath List.not_mem_nil
    · simp only [List.mem_filter, Bool.and_eq_true, Bool.not_eq_true', decide_eq_true_eq] at hpath
      rcases hpath with ⟨hfile, ⟨_, hstopped⟩, hfinished⟩
      refine ⟨hfile, fun hc => ?_⟩
      rcases List.mem_append.mp hc with hc | hc
      · rw [List.contains_iff_mem.mpr hc] at hfinished
        cases hfinished
      · exact hstopped (Option.mem_toList.mp hc)
  refine ⟨?_, ?_, ?_⟩
  · rw [List.nodup_append]
    refine ⟨hnodup.sublist hseen.sublist, ?_, ?_⟩
    · rw [stragglers]
      split
      · exact List.nodup_nil
      · exact (nodup_distinct u.files).sublist List.filter_sublist
    · rintro path hpath _ hother rfl
      exact (hlate path hother).2 hpath
  · intro path hpath
    rw [← mem_distinct]
    rcases List.mem_append.mp hpath with hpath | hpath
    · exact horder.mem_iff.mp (hseen.subset hpath)
    · exact (hlate path hpath).1
  · intro hworkers
    rw [stragglers, if_pos (.inl hworkers), List.append_nil]
    exact hone hworkers ▸ hseen

/-- An analysis without a number of workers does not start. -/
theorem analyse_valueless {s : Session} {a : Arguments} {u : Setup}
    {interpreter : Option Interpreter} (h : a.valueless.contains .workers = true) :
    analyse s a u.settings u.rules u.files interpreter = ⟨[], .error (.valueless .number)⟩ := by
  have hvalue : (needValue a .workers .number).result = .error (.valueless .number) := by
    rw [needValue, h]
    rfl
  rw [analyse, Activity.bind_of_error hvalue]
  rfl

/-- An analysis is its looks at files and a log record, and comes to what these come to. -/
theorem analyse_eq (s : Session) {a : Arguments} (u : Setup) (interpreter : Option Interpreter)
    (h : a.valueless.contains .workers = false) :
    ∃ es, Shows es interpreter (looked s u interpreter) ∧ (a.format = .json → outsOf es = []) ∧
      analyse s a u.settings u.rules u.files interpreter =
        ⟨es, (analyze (pipeline s.world interpreter u.rules) s.world.schedule
          u.settings.workers u.files).result⟩ := by
  have hvalue : (needValue a .workers .number).result = .ok () := by
    rw [needValue, h]
    rfl
  rw [analyse, Activity.bind_of_ok hvalue]
  simp only [Activity.emit_bind]
  rw [looked]
  generalize analyze (pipeline s.world interpreter u.rules) s.world.schedule u.settings.workers
    u.files = analysis
  generalize hp : pipeline s.world interpreter u.rules = p
  generalize hprogress : (if a.format = .text then
    some (Progress.start Progress.defaultWidth) else none) = progress
  have htold := s.shows_progressEvents interpreter progress analysis.finished
  have hlate : Shows ((analysis.stoppedAt.toList ++
      stragglers s.world u.settings.workers u.files analysis).flatMap (lateEvents s interpreter p))
      interpreter _ :=
    Shows.flatMap fun path _ => shows_lateEvents s interpreter p path
  have hshown := htold.append hlate
  rw [← List.append_assoc] at hshown
  have hout : a.format = .json → outsOf (s.progressEvents interpreter progress analysis.finished ++
      (analysis.stoppedAt.toList ++
        stragglers s.world u.settings.workers u.files analysis).flatMap
          (lateEvents s interpreter p)) = [] := by
    intro hjson
    rw [hjson] at hprogress
    rw [← hprogress, if_neg (by decide), outsOf_append, s.outsOf_progressEvents, List.nil_append,
      outsOf, List.filterMap_flatMap]
    exact List.flatMap_eq_nil_iff.mpr fun path _ => outsOf_lateEvents s interpreter p path
  cases analysis.result with
  | error b =>
      rw [Activity.bind_of_error rfl]
      refine ⟨_, hshown, hout, ?_⟩
      simp only [Activity.ofResult, needValue, List.append_nil, List.nil_append]
  | ok report =>
      have hquiet : Quiet (s.analysedEvents report u.rules.length u.settings.workers) :=
        s.quiet_logged _
      rw [Activity.bind_of_ok rfl]
      refine ⟨_, hshown.append_quiet hquiet, fun hjson => ?_, ?_⟩
      · rw [outsOf_append, hout hjson, hquiet.outsOf_eq, List.append_nil]
      · simp only [Activity.ofResult, Activity.pure_eq, needValue, List.append_nil,
          List.nil_append, List.append_assoc]

end CommandLine

end TokenLint
