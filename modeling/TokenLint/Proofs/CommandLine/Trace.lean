import TokenLint.Proofs.CommandLine.Events
import TokenLint.Proofs.Report.Payload
import TokenLint.Proofs.Result

/-!
# The Trace of a Check

A check goes through three stages. It is set up, which is a matter of reading
settings and starts nothing. Then, if files are to go through the syntax
pre-check, the interpreter is asked for its version, and if it does not answer
that is the end. Only then are files looked at, and at the end there is one
text to write.

What is written out for programs is one JSON value, and it is written in one
piece after everything that can fail. So a program that reads it gets all or
nothing.

## Main definitions

* `CommandLine.Checks`: The trace of a check, as far as it gets.
* `CommandLine.WritesWhole`: Activities that write one report for programs, or
  break down and write nothing.

## Theorems

* `CommandLine.quiet_setUp`: Setting up a check is log records only.
* `CommandLine.setUp_eq_ok_iff`: What a check is set up with.
* `CommandLine.carryOut_of_error`, `CommandLine.carryOut_of_ok`: A check whose
  interpreter does not run, and one that goes on to its files.
* `CommandLine.checks_carryOut`: The trace of a check that is set up.
* `CommandLine.writesWhole_check`: A check for programs.
* `CommandLine.perform_eq`: A run that gets to its task.
* `CommandLine.run_check_trace`: What can be seen of a run that checks files,
  in the order of time.
-/

namespace TokenLint

namespace CommandLine

theorem Quiet.bind {α β : Type} {x : Activity α} {f : α → Activity β} (hx : Quiet x.events)
    (hf : ∀ a, Quiet (f a).events) : Quiet (x >>= f).events := by
  cases h : x.result with
  | error b => rw [Activity.bind_of_error h]; exact hx
  | ok a => rw [Activity.bind_of_ok h]; exact hx.append (hf a)

theorem quiet_loadSettings (s : Session) (a : Arguments) : Quiet (loadSettings s a).events := by
  unfold loadSettings
  refine Quiet.bind quiet_nil fun _ => Quiet.bind quiet_nil fun settings => ?_
  cases settings.source with
  | none =>
      exact Quiet.bind (s.quiet_logged _) fun _ => Quiet.bind quiet_nil fun _ => quiet_nil
  | some path =>
      exact Quiet.bind (s.quiet_loggedFile _ _ _ _ _ _) fun _ =>
        Quiet.bind quiet_nil fun _ => quiet_nil

/-- Setting a check up is log records only. -/
theorem quiet_setUp (s : Session) (a : Arguments) (path : Path) : Quiet (setUp s a path).events := by
  unfold setUp
  exact Quiet.bind (quiet_loadSettings s a) fun _ => Quiet.bind quiet_nil fun _ =>
    Quiet.bind quiet_nil fun _ => quiet_nil

/-- What the loading of settings comes to. -/
theorem loadSettings_result (s : Session) (a : Arguments) : (loadSettings s a).result =
    ((needValue a .settingsFile .path).result.bind fun _ =>
      (Settings.load s.world.files a.settingsFile s.world.home).bind fun settings =>
        (needValue a .failOn .word).result.bind fun _ => .ok (override settings a)) := by
  rw [loadSettings, Activity.result_bind]
  congr 1
  funext _
  rw [Activity.result_bind]
  congr 1
  funext settings
  cases settings.source <;> rw [Activity.result_bind] <;> exact Activity.result_bind _ _

/-- What setting a check up comes to. -/
theorem setUp_result (s : Session) (a : Arguments) (path : Path) : (setUp s a path).result =
    ((loadSettings s a).result.bind fun settings =>
      ((s.world.registry.resolve settings.rules settings.ruleOptions).mapError .failure).bind
        fun rules =>
          (discover s.world.files path settings.extensions settings.exclude).bind fun files =>
            .ok ⟨settings, rules, files⟩) := by
  rw [setUp, Activity.result_bind]
  congr 1
  funext settings
  rw [Activity.result_bind]
  congr 1
  funext rules
  exact Activity.result_bind _ _

/-- Settings are loaded if no option that is used for that is without its value. -/
theorem loadSettings_eq_ok_iff {s : Session} {a : Arguments} {settings : Settings} :
    (loadSettings s a).result = .ok settings ↔
      a.valueless.contains .settingsFile = false ∧ a.valueless.contains .failOn = false ∧
        ∃ loaded, Settings.load s.world.files a.settingsFile s.world.home = .ok loaded ∧
          override loaded a = settings := by
  have hneed : ∀ name use, (needValue a name use).result =
      if a.valueless.contains name then .error (.valueless use) else .ok () := fun _ _ => rfl
  rw [loadSettings_result, hneed, hneed]
  cases a.valueless.contains .settingsFile with
  | true => simp [Except.bind]
  | false =>
      cases a.valueless.contains .failOn with
      | true =>
          cases Settings.load s.world.files a.settingsFile s.world.home <;> simp [Except.bind]
      | false =>
          cases Settings.load s.world.files a.settingsFile s.world.home <;> simp [Except.bind]

/-- A check is set up with settings, and with the rules and files that these ask for. -/
theorem setUp_eq_ok_iff {s : Session} {a : Arguments} {path : Path} {u : Setup} :
    (setUp s a path).result = .ok u ↔
      (loadSettings s a).result = .ok u.settings ∧
        s.world.registry.resolve u.settings.rules u.settings.ruleOptions = .ok u.rules ∧
        discover s.world.files path u.settings.extensions u.settings.exclude = .ok u.files := by
  rw [setUp_result]
  constructor
  · intro h
    obtain ⟨settings, hsettings, h⟩ := ok_of_bind h
    obtain ⟨rules, hrules, h⟩ := ok_of_bind h
    obtain ⟨files, hfiles, h⟩ := ok_of_bind h
    cases h
    exact ⟨hsettings, ok_of_mapError hrules, hfiles⟩
  · rintro ⟨hsettings, hrules, hfiles⟩
    simp only [hsettings, Except.bind, hrules, Except.mapError, hfiles]

/-- Whether and how a check can be set up is not a matter of log settings. -/
theorem setUp_result_log (w : World) (log log' : LogSettings) (a : Arguments) (path : Path) :
    (setUp ⟨w, log⟩ a path).result = (setUp ⟨w, log'⟩ a path).result := by
  rw [setUp_result, setUp_result, loadSettings_result, loadSettings_result]

/-- The interpreter of the syntax pre-check of a check that is set up. -/
def interpreterOf (w : World) (u : Setup) : Interpreter :=
  Interpreter.named w.interpreter u.settings.interpreter w.runner

theorem startInterpreter_off (s : Session) {u : Setup} (h : u.settings.checksSyntax = false) :
    startInterpreter s u.settings = ⟨[], .ok none⟩ := by
  rw [startInterpreter, h]
  rfl

theorem startInterpreter_on (s : Session) {u : Setup} (h : u.settings.checksSyntax = true) :
    startInterpreter s u.settings =
      ⟨[.command (interpreterOf s.world u).versionCommand],
        match (interpreterOf s.world u).verify with
        | .ok _ => .ok (some (interpreterOf s.world u))
        | .error f => .error (.failure f)⟩ := by
  have hstart : startInterpreter s u.settings =
      (Activity.emit [.command (interpreterOf s.world u).versionCommand] >>= fun _ =>
        Activity.ofFailing (interpreterOf s.world u).verify >>= fun _ =>
          Pure.pure (some (interpreterOf s.world u))) := by
    rw [startInterpreter, h]
    rfl
  rw [hstart, Activity.emit_bind]
  cases hverify : (interpreterOf s.world u).verify with
  | error f => rw [Activity.bind_of_error rfl]; rfl
  | ok _ => rw [Activity.bind_of_ok rfl]; rfl

/-- A check whose interpreter does not run ends there. -/
theorem carryOut_of_error {s : Session} {a : Arguments} {u : Setup} {b : Breakdown}
    (h : (startInterpreter s u.settings).result = .error b) :
    carryOut s a u = ⟨(startInterpreter s u.settings).events, .error b⟩ := by
  rw [carryOut, Activity.bind_of_error h]

/-- What is written of an analysis that comes to a report. -/
def outcomeEvents (a : Arguments) : Except Breakdown Report → List Event
  | .ok report => [.out (outcomeText a report)]
  | .error _ => []

/-- A check whose interpreter runs, or that has none, goes on to the analysis. -/
theorem carryOut_of_ok {s : Session} {a : Arguments} {u : Setup} {i : Option Interpreter}
    (h : (startInterpreter s u.settings).result = .ok i) :
    ∃ es, Quiet es ∧ carryOut s a u =
      ⟨(startInterpreter s u.settings).events ++
          (es ++ (analyse s a u.settings u.rules u.files i).events ++
            outcomeEvents a (analyse s a u.settings u.rules u.files i).result),
        (analyse s a u.settings u.rules u.files i).result.map fun report =>
          exitCode u.settings.failOn report.hasErrors report.hasWarnings⟩ := by
  refine ⟨s.logged ⟨"lexcheck.cli", .info,
    s!"Analysing {u.files.length} files with {u.rules.length} rules", []⟩, s.quiet_logged _, ?_⟩
  rw [carryOut, Activity.bind_of_ok h, Activity.emit_bind]
  cases hreport : (analyse s a u.settings u.rules u.files i).result with
  | error b =>
      rw [Activity.bind_of_error hreport, outcomeEvents, List.append_nil]
      rfl
  | ok report =>
      rw [Activity.bind_of_ok hreport, Activity.emit_bind, outcomeEvents]
      simp only [Activity.pure_eq, List.append_nil, List.append_assoc]
      rfl

/-- What can be seen of a check that is set up. It has to do with some of the files, each
    once, which are the first ones with one worker. Without the pre-check no command is
    started. With it, the interpreter is asked for its version before anything else, and
    if it does not answer there is nothing else. -/
structure Checks (w : World) (u : Setup) (es : List Event) (paths : List Path) : Prop where
  nodup : paths.Nodup
  subset : paths ⊆ u.files
  order : u.settings.workers = 1 → paths <+: u.files
  reads : (readsOf es).Sublist paths
  off : u.settings.checksSyntax = false → commandsOf es = []
  on : u.settings.checksSyntax = true → commandsOf es = [] ∧ paths = [] ∨
    commandsOf es = (interpreterOf w u).versionCommand ::
        paths.map (interpreterOf w u).checkCommand ∧
      (paths ≠ [] → (interpreterOf w u).verify = .ok ()) ∧
      ∃ before after, es = before ++ .command (interpreterOf w u).versionCommand :: after ∧
        commandsOf before = [] ∧ readsOf before = []

/-- Events without commands and readings around it leave a trace as it is. -/
theorem Checks.around {w : World} {u : Setup} {es before after : List Event} {paths : List Path}
    (h : Checks w u es paths) (hb : commandsOf before = [] ∧ readsOf before = [])
    (ha : commandsOf after = [] ∧ readsOf after = []) :
    Checks w u (before ++ es ++ after) paths := by
  have hcommands : commandsOf (before ++ es ++ after) = commandsOf es := by
    rw [commandsOf_append, commandsOf_append, hb.1, ha.1, List.nil_append, List.append_nil]
  have hreads : readsOf (before ++ es ++ after) = readsOf es := by
    rw [readsOf_append, readsOf_append, hb.2, ha.2, List.nil_append, List.append_nil]
  refine ⟨h.nodup, h.subset, h.order, hreads ▸ h.reads, fun hoff => hcommands ▸ h.off hoff, ?_⟩
  intro hon
  rw [hcommands]
  rcases h.on hon with hnone | ⟨hall, hverify, front, rest, hes, hfront⟩
  · exact .inl hnone
  · -- What stood before the version command has what comes before it in front now.
    refine .inr ⟨hall, hverify, before ++ front, rest ++ after, ?_, ?_, ?_⟩
    · rw [hes, ← List.append_assoc, List.append_assoc (before ++ front), List.cons_append]
    · rw [commandsOf_append, hb.1, hfront.1, List.nil_append]
    · rw [readsOf_append, hb.2, hfront.2, List.nil_append]

theorem outcomeEvents_still (a : Arguments) (x : Except Breakdown Report) :
    commandsOf (outcomeEvents a x) = [] ∧ readsOf (outcomeEvents a x) = [] := by
  cases x <;> exact ⟨rfl, rfl⟩

/-- The events of an analysis are of one look at each of some files, and these are not in
    any other order than the files of the run if there is one worker. -/
theorem shows_analyse (s : Session) (a : Arguments) (u : Setup) (i : Option Interpreter)
    (hfiles : u.files.Nodup)
    (hschedule : (s.world.schedule (distinct u.files)).Perm (distinct u.files)) :
    ∃ paths, paths.Nodup ∧ paths ⊆ u.files ∧ (u.settings.workers = 1 → paths <+: u.files) ∧
      Shows (analyse s a u.settings u.rules u.files i).events i paths := by
  cases hvalue : a.valueless.contains .workers with
  | true =>
      rw [analyse_valueless hvalue]
      exact ⟨[], List.nodup_nil, List.nil_subset _, fun _ => List.nil_prefix,
        Shows.of_quiet quiet_nil i⟩
  | false =>
      rcases looked_spec s u i hschedule with ⟨hnodup, hsubset, horder⟩
      rcases analyse_eq s u i hvalue with ⟨es, hshows, _, heq⟩
      rw [heq]
      exact ⟨_, hnodup, hsubset, distinct_of_nodup hfiles ▸ horder, hshows⟩

/-- The trace of a check that is set up. -/
theorem checks_carryOut (s : Session) (a : Arguments) (u : Setup) (hfiles : u.files.Nodup)
    (hschedule : (s.world.schedule (distinct u.files)).Perm (distinct u.files)) :
    ∃ paths, Checks s.world u (carryOut s a u).events paths := by
  cases hchecks : u.settings.checksSyntax with
  | false =>
      have hstart := startInterpreter_off s hchecks
      rcases carryOut_of_ok (a := a) (congrArg Activity.result hstart) with ⟨es, hquiet, heq⟩
      rcases shows_analyse s a u none hfiles hschedule with
        ⟨paths, hnodup, hsubset, horder, hshows⟩
      have htrace : Checks s.world u (analyse s a u.settings u.rules u.files none).events paths :=
        { nodup := hnodup
          subset := hsubset
          order := horder
          reads := hshows.reads
          off := fun _ => hshows.commands
          on := fun hon => absurd (hchecks.symm.trans hon) Bool.false_ne_true }
      rw [heq, hstart]
      exact ⟨paths, htrace.around hquiet.still (outcomeEvents_still a _)⟩
  | true =>
      have hstart := startInterpreter_on s hchecks
      cases hverify : (interpreterOf s.world u).verify with
      | error f =>
          -- The version command is the whole trace.
          rw [hverify] at hstart
          rw [carryOut_of_error (congrArg Activity.result hstart), hstart]
          exact ⟨[], List.nodup_nil, List.nil_subset _, fun _ => List.nil_prefix,
            List.nil_sublist _, fun hoff => absurd (hoff.symm.trans hchecks) Bool.false_ne_true,
            fun _ => .inr ⟨rfl, fun h => absurd rfl h, [], [], rfl, rfl, rfl⟩⟩
      | ok _ =>
          rw [hverify] at hstart
          rcases carryOut_of_ok (a := a) (congrArg Activity.result hstart) with ⟨es, hquiet, heq⟩
          rcases shows_analyse s a u (some (interpreterOf s.world u)) hfiles hschedule with
            ⟨paths, hnodup, hsubset, horder, hshows⟩
          rw [heq, hstart]
          -- The version command comes first, and all other commands are those of the analysis.
          have hafter := hquiet.still
          have hout := outcomeEvents_still a
            (analyse s a u.settings u.rules u.files (some (interpreterOf s.world u))).result
          refine ⟨paths, hnodup, hsubset, horder, ?_,
            fun hoff => absurd (hoff.symm.trans hchecks) Bool.false_ne_true,
            fun _ => .inr ⟨?_, fun _ => hverify, [], _, rfl, rfl, rfl⟩⟩
          · rw [readsOf_append, readsOf_append, readsOf_append, hafter.2, hout.2, List.append_nil]
            exact hshows.reads
          · rw [commandsOf_append, commandsOf_append, commandsOf_append, hafter.1, hout.1,
              List.append_nil, List.nil_append, hshows.commands]
            rfl

/-- The version, above the outcome for people. -/
def header (a : Arguments) : List Event :=
  if a.format = .text then [.out s!"{programName.capitalize} {version}\n\n"] else []

theorem header_still (a : Arguments) :
    commandsOf (header a) = [] ∧ readsOf (header a) = [] := by
  rw [header]
  split <;> exact ⟨rfl, rfl⟩

/-- What a run does once it is known how to log. -/
def task (s : Session) (a : Arguments) : Activity Int :=
  if a.listsRules then reported s (listRules s)
  else match a.path with
    | some path => reported s (check s a path)
    | none => refused s!"the following arguments are required: {pathName}"

theorem run_of_read (w : World) {argv : List String} {a : Arguments}
    (hread : Arguments.read argv = .ok a) : run w argv = perform w a := by
  rw [run, hread]

/-- A run that does not show the version breaks down at once, by the log settings or the
    option for the output, or gets to its task. -/
theorem perform_eq (w : World) {a : Arguments} (hversion : a.showsVersion = false) :
    perform w a = match LogSettings.select (logRequest w a) with
      | .error complaint => ⟨[], .error (.unknownWord complaint)⟩
      | .ok log =>
        if a.valueless.contains .format then ⟨[], .error (.valueless .word)⟩
        else ⟨header a ++ (task ⟨w, log⟩ a).events, (task ⟨w, log⟩ a).result⟩ := by
  simp only [perform, hversion, Bool.false_eq_true, if_false]
  cases LogSettings.select (logRequest w a) with
  | error complaint => rw [Activity.bind_of_error rfl]; rfl
  | ok log =>
      rw [Activity.bind_of_ok rfl, needValue]
      cases a.valueless.contains .format with
      | true => rfl
      | false =>
          simp only [Activity.emit_bind, Bool.false_eq_true, if_false]
          rw [Activity.bind_of_ok rfl]
          rfl

theorem task_check (s : Session) {a : Arguments} {path : Path} (hlist : a.listsRules = false)
    (hpath : a.path = some path) : task s a = reported s (check s a path) := by
  simp only [task, hlist, hpath, Bool.false_eq_true, if_false]

theorem quiet_failureEvents (s : Session) (f : Failure) : Quiet (failureEvents s f) := by
  refine (s.quiet_logged _).append fun e he => ?_
  simp only [List.mem_cons, List.not_mem_nil, or_false] at he
  rcases he with rfl | rfl <;> exact ⟨_, rfl⟩

/-- A failure to set up a run is taken as an exit code, and the rest is left as it is. -/
theorem reported_cases (s : Session) (x : Activity Int) :
    reported s x = x ∨ ∃ f, x.result = .error (.failure f) ∧ f.isConfiguration = true ∧
      reported s x = ⟨x.events ++ failureEvents s f, .ok 2⟩ := by
  rw [reported]
  split
  · rename_i f hresult
    split
    · rename_i hconfiguration
      exact .inr ⟨f, hresult, hconfiguration, rfl⟩
    · exact .inl rfl
  · exact .inl rfl

theorem exitCode_cases (policy : FailPolicy) (errors warnings : Bool) :
    exitCode policy errors warnings = 0 ∨ exitCode policy errors warnings = 1 := by
  cases policy <;> cases errors <;> cases warnings <;> decide

theorem outs_startInterpreter (s : Session) (u : Setup) :
    outsOf (startInterpreter s u.settings).events = [] := by
  cases hchecks : u.settings.checksSyntax with
  | false => rw [startInterpreter_off s hchecks]; rfl
  | true => rw [startInterpreter_on s hchecks]; rfl

theorem outs_analyse (s : Session) {a : Arguments} (u : Setup) (i : Option Interpreter)
    (hjson : a.format = .json) :
    outsOf (analyse s a u.settings u.rules u.files i).events = [] := by
  cases hvalue : a.valueless.contains .workers with
  | true => rw [analyse_valueless hvalue]; rfl
  | false =>
      rcases analyse_eq s u i hvalue with ⟨es, _, houts, heq⟩
      rw [heq]
      exact houts hjson

/-- Something for programs that is written in one piece, or not at all. -/
def WritesWhole (x : Activity Int) : Prop :=
  (∃ b, x.result = .error b ∧ outsOf x.events = []) ∨
    ∃ code, ∃ report : Report, (code = 0 ∨ code = 1) ∧ x.result = .ok code ∧
      outsOf x.events = [report.json ++ "\n"]

theorem writesWhole_carryOut (s : Session) {a : Arguments} (u : Setup) (hjson : a.format = .json) :
    WritesWhole (carryOut s a u) := by
  have hstarted := outs_startInterpreter s u
  cases hstart : (startInterpreter s u.settings).result with
  | error b =>
      rw [carryOut_of_error hstart]
      exact .inl ⟨b, rfl, hstarted⟩
  | ok i =>
      rcases carryOut_of_ok (a := a) hstart with ⟨es, hquiet, heq⟩
      have hanalysed := outs_analyse s u i hjson
      rw [heq]
      cases hreport : (analyse s a u.settings u.rules u.files i).result with
      | error b =>
          refine .inl ⟨b, rfl, ?_⟩
          rw [outcomeEvents, List.append_nil, outsOf_append, outsOf_append, hstarted, hanalysed,
            hquiet.outsOf_eq]
          rfl
      | ok report =>
          refine .inr ⟨_, report, exitCode_cases _ _ _, rfl, ?_⟩
          rw [outcomeEvents, outsOf_append, outsOf_append, outsOf_append, hstarted, hanalysed,
            hquiet.outsOf_eq, outcomeText, hjson]
          rfl

theorem writesWhole_check (s : Session) {a : Arguments} (path : Path) (hjson : a.format = .json) :
    WritesWhole (check s a path) := by
  have hquiet := quiet_setUp s a path
  rw [check]
  cases hset : (setUp s a path).result with
  | error b =>
      rw [Activity.bind_of_error hset]
      exact .inl ⟨b, rfl, hquiet.outsOf_eq⟩
  | ok u =>
      rw [Activity.bind_of_ok hset]
      rcases writesWhole_carryOut s u hjson with
        ⟨b, hb, houts⟩ | ⟨code, report, hcode, hok, houts⟩
      · exact .inl ⟨b, hb, by rw [outsOf_append, hquiet.outsOf_eq, houts]; rfl⟩
      · exact .inr ⟨code, report, hcode, hok, by rw [outsOf_append, hquiet.outsOf_eq, houts]; rfl⟩

theorem nodup_discover {tree : FileTree} {root : Path} {extensions exclude : List String}
    {files : List Path} (h : discover tree root extensions exclude = .ok files) :
    files.Nodup := by
  rcases ok_of_bind h with ⟨found, _, h⟩
  split at h
  · cases h
  · rw [← Except.ok.inj h]
    exact List.nodup_cons.mpr ⟨List.not_mem_nil, List.nodup_nil⟩
  · rw [← Except.ok.inj h]
    exact nodup_distinct _

/-- A check that is set up has no file twice. -/
theorem nodup_setUp {s : Session} {a : Arguments} {path : Path} {u : Setup}
    (h : (setUp s a path).result = .ok u) : u.files.Nodup :=
  nodup_discover (setUp_eq_ok_iff.mp h).2.2

theorem checks_check (s : Session) {a : Arguments} {path : Path} {u : Setup}
    (hset : (setUp s a path).result = .ok u)
    (hschedule : (s.world.schedule (distinct u.files)).Perm (distinct u.files)) :
    ∃ paths, Checks s.world u (check s a path).events paths := by
  rcases checks_carryOut s a u (nodup_setUp hset) hschedule with ⟨paths, hpaths⟩
  have htrace : Checks s.world u ((setUp s a path).events ++ (carryOut s a u).events ++ []) paths :=
    hpaths.around (quiet_setUp s a path).still ⟨rfl, rfl⟩
  rw [List.append_nil] at htrace
  rw [check, Activity.bind_of_ok hset]
  exact ⟨paths, htrace⟩

theorem Checks.nothing (w : World) (u : Setup) : Checks w u [] [] :=
  ⟨List.nodup_nil, List.nil_subset _, fun _ => List.nil_prefix, List.nil_sublist _, fun _ => rfl,
    fun _ => .inl ⟨rfl, rfl⟩⟩

section Run

variable {w : World} {argv : List String} {a : Arguments} {path : Path}
  (hread : Arguments.read argv = .ok a) (hversion : a.showsVersion = false)
  (hlist : a.listsRules = false) (hpath : a.path = some path)

include hread hversion hlist hpath

/-- A run that checks files breaks down at once, or it is a check between a header and,
    if the check is refused, a complaint. -/
theorem run_check_cases :
    (∃ b, run w argv = ⟨[], .error b⟩) ∨ ∃ log es, Quiet es ∧
      (run w argv).events = header a ++ (check ⟨w, log⟩ a path).events ++ es ∧
      ((run w argv).result = (check ⟨w, log⟩ a path).result ∨
        (∃ f, (check ⟨w, log⟩ a path).result = .error (.failure f)) ∧
          (run w argv).result = .ok 2) := by
  rw [run_of_read w hread, perform_eq w hversion]
  cases LogSettings.select (logRequest w a) with
  | error complaint => exact .inl ⟨_, rfl⟩
  | ok log =>
      cases a.valueless.contains .format with
      | true => exact .inl ⟨_, rfl⟩
      | false =>
          refine .inr ⟨log, ?_⟩
          simp only [Bool.false_eq_true, if_false, task_check _ hlist hpath]
          rcases reported_cases ⟨w, log⟩ (check ⟨w, log⟩ a path) with heq | ⟨f, hf, _, heq⟩
          · rw [heq]
            exact ⟨[], quiet_nil, (List.append_nil _).symm, .inl rfl⟩
          · rw [heq]
            exact ⟨_, quiet_failureEvents _ f, (List.append_assoc _ _ _).symm,
              .inr ⟨⟨f, hf⟩, rfl⟩⟩

/-- A run that cannot be set up starts and reads nothing. -/
theorem run_setUp_error {log : LogSettings} {b : Breakdown}
    (hset : (setUp ⟨w, log⟩ a path).result = .error b) :
    commandsOf (run w argv).events = [] ∧ readsOf (run w argv).events = [] := by
  rcases run_check_cases hread hversion hlist hpath with ⟨b', hb⟩ | ⟨log', es, hes, hevents, _⟩
  · rw [hb]
    exact ⟨rfl, rfl⟩
  · have hhead := header_still a
    have hquiet := (quiet_setUp ⟨w, log'⟩ a path).still
    rw [setUp_result_log w log log'] at hset
    rw [hevents, check, Activity.bind_of_error hset]
    refine ⟨?_, ?_⟩
    · rw [commandsOf_append, commandsOf_append, hhead.1, hquiet.1, hes.still.1]
      rfl
    · rw [readsOf_append, readsOf_append, hhead.2, hquiet.2, hes.still.2]
      rfl

/-- The trace of a run that can be set up. -/
theorem checks_run {log : LogSettings} {u : Setup}
    (hset : (setUp ⟨w, log⟩ a path).result = .ok u)
    (hschedule : (w.schedule (distinct u.files)).Perm (distinct u.files)) :
    ∃ paths, Checks w u (run w argv).events paths := by
  rcases run_check_cases hread hversion hlist hpath with ⟨b', hb⟩ | ⟨log', es, hes, hevents, _⟩
  · rw [hb]
    exact ⟨[], Checks.nothing w u⟩
  · -- The log settings of the run need not be those that the set-up is stated for.
    rw [setUp_result_log w log log'] at hset
    rcases checks_check ⟨w, log'⟩ hset hschedule with ⟨paths, hpaths⟩
    rw [hevents]
    exact ⟨paths, hpaths.around (header_still a) hes.still⟩

/-- A run that writes for programs writes its outcome in one piece, or nothing. -/
theorem outs_run (hjson : a.format = .json) :
    ((run w argv).result = .ok 2 → outsOf (run w argv).events = []) ∧
      ((run w argv).result = .ok 0 ∨ (run w argv).result = .ok 1 →
        ∃ report : Report, outsOf (run w argv).events = [report.json ++ "\n"]) := by
  rcases run_check_cases hread hversion hlist hpath with ⟨b, hb⟩ | ⟨log, es, hes, hevents, hends⟩
  · rw [hb]
    refine ⟨fun _ => rfl, ?_⟩
    rintro (h | h) <;> cases h
  · have houts : outsOf (run w argv).events = outsOf (check ⟨w, log⟩ a path).events := by
      rw [hevents, outsOf_append, outsOf_append, hes.outsOf_eq, header, hjson, List.append_nil]
      rfl
    rw [houts]
    rcases writesWhole_check ⟨w, log⟩ path hjson with
      ⟨b, hb, hnone⟩ | ⟨code, report, hcode, hok, hone⟩
    · -- Nothing was written, so the run has come to no verdict.
      refine ⟨fun _ => hnone, fun h => ?_⟩
      rcases hends with hends | ⟨_, hends⟩ <;> rw [hends] at h
      · rw [hb] at h
        rcases h with h | h <;> cases h
      · rcases h with h | h <;> cases h
    · -- The check has come to a verdict, which no complaint takes the place of.
      refine ⟨fun h => ?_, fun _ => ⟨report, hone⟩⟩
      rcases hends with hends | ⟨⟨f, hf⟩, _⟩
      · rw [hends, hok] at h
        rcases hcode with rfl | rfl <;> cases h
      · rw [hok] at hf
        cases hf

end Run

/-- What a run that checks files does and when. Nothing is started and nothing is read if
    the run cannot be set up. If it can, the interpreter of the syntax pre-check comes
    first, then the files. What is for programs is one value and a line end if the run
    comes to a verdict, and nothing if it is refused. -/
theorem run_check_trace (w : World) (argv : List String) (a : Arguments) (path : Path)
    (hread : Arguments.read argv = .ok a) (hversion : a.showsVersion = false)
    (hlist : a.listsRules = false) (hpath : a.path = some path)
    (hschedule : ∀ paths, (w.schedule paths).Perm paths) :
    (∀ log b, (setUp ⟨w, log⟩ a path).result = .error b →
      commandsOf (run w argv).events = [] ∧ readsOf (run w argv).events = []) ∧
    (∀ log u, (setUp ⟨w, log⟩ a path).result = .ok u →
      ∃ paths, Checks w u (run w argv).events paths) ∧
    (a.format = .json →
      ((run w argv).result = .ok 2 → (run w argv).output = "") ∧
      ((run w argv).result = .ok 0 ∨ (run w argv).result = .ok 1 → ∃ text x,
        (run w argv).output = text ++ "\n" ∧ Json.parse? text = some x)) := by
  refine ⟨fun log b hset => run_setUp_error hread hversion hlist hpath hset,
    fun log u hset => checks_run hread hversion hlist hpath hset (hschedule _), fun hjson => ?_⟩
  have houtput : (run w argv).output = String.join (outsOf (run w argv).events) := rfl
  rcases outs_run hread hversion hlist hpath hjson with ⟨hrefused, hverdict⟩
  rw [houtput]
  refine ⟨fun h => by rw [hrefused h]; rfl, fun h => ?_⟩
  rcases hverdict h with ⟨report, hreport⟩
  refine ⟨report.json, report.payload.toJson, ?_, report.parse?_json⟩
  rw [hreport]
  exact String.empty_append

/-- A world with one file, in which the interpreter is gone once it has told its version. -/
def cutOff : World where
  files := ⟨⟨"/", ["home"]⟩, .directory [("home", .directory [("a.py", .file [])])]⟩
  environment := []
  runner := fun argv =>
    if argv = ["python3", "--version"] then .ok ⟨"Python 3.12.1", "", 0⟩
    else .error (.missing "python3")
  interpreter := "python3"
  registry := .standard
  schedule := id
  instant := ""
  duration := .int 0
  wording := .plain

/-- What a check of the file for programs is asked for with. -/
def cutOffWords : List String := ["a.py", "--format", "json", "-r", "trailing-whitespace"]

/-- The same, read. -/
def cutOffArguments : Arguments :=
  { Arguments.empty with
    path := some ⟨"", ["a.py"]⟩, format := .json, rules := ["trailing-whitespace"] }

/-- The check has got as far as the file, and still nothing is written for programs. -/
theorem run_check_trace_cutOff :
    Arguments.read cutOffWords = .ok cutOffArguments ∧
      (∀ paths, (cutOff.schedule paths).Perm paths) ∧
      (run cutOff cutOffWords).result = .ok 2 ∧ (run cutOff cutOffWords).output = "" ∧
      ∃ u paths, u.settings.checksSyntax = true ∧ u.files = [⟨"", ["a.py"]⟩] ∧
        Checks cutOff u (run cutOff cutOffWords).events paths := by
  have hread : Arguments.read cutOffWords = .ok cutOffArguments := rfl
  have hschedule : ∀ paths, (cutOff.schedule paths).Perm paths := fun paths => List.Perm.refl paths
  have hresult : (run cutOff cutOffWords).result = .ok 2 := rfl
  have hset : ∃ u, (setUp ⟨cutOff, ⟨.text, 30, "warning"⟩⟩ cutOffArguments
      ⟨"", ["a.py"]⟩).result = .ok u ∧ u.settings.checksSyntax = true ∧
      u.files = [⟨"", ["a.py"]⟩] := ⟨_, rfl, rfl, rfl⟩
  rcases run_check_trace cutOff cutOffWords cutOffArguments ⟨"", ["a.py"]⟩ hread rfl rfl rfl
    hschedule with ⟨_, htrace, hwritten⟩
  rcases hset with ⟨u, hset, hchecks, hfiles⟩
  rcases htrace _ u hset with ⟨paths, hpaths⟩
  exact ⟨hread, hschedule, hresult, (hwritten rfl).1 hresult, u, paths, hchecks, hfiles, hpaths⟩

end CommandLine

end TokenLint
