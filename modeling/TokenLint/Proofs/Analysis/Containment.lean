import TokenLint.Proofs.Analysis.Isolation
import TokenLint.Proofs.Token.Tiling

/-!
# Containment of Failures

A file can fail at any stage: the syntax pre-check has a report on it, it
cannot be read, its lexer gives up halfway, or a rule breaks down. None of
this ends the run, and none of it leaves the file in between two stages.

A file either ends early or goes through to the end. If it ends early, it has
one finding and no rule has a say in that: what comes of the file is the same
whatever the rules are. If it goes through to the end, its tokens are the
whole source, each rule has run once, and everything that is found about it
comes from a rule. `run_ofLexer` follows the stages and says which of the two
it is; the status tells them apart.

A failure of the run itself is another matter. There is none to be had here:
the pre-check always comes to a report, and the place that a lexer gives up
at can be read as a line, if it names one at all.

## Main definitions

* `LexFault.IsLocated`: A fault whose place has a line in front.
* `FileOutcome.runs`: The runs of the rules on a file.
* `Pipeline.ofLexer`: The stages that a lexer's output goes through.
* `Pipeline.EndsEarly`: A file that no rule has looked at.
* `Pipeline.ReachesEnd`: A file that all rules have looked at.

## Theorems

* `LexFault.IsLocated.exists_line`: Such a fault has a line.
* `FileOutcome.ends_or_checked`: A file that was not checked has one finding.
* `Pipeline.EndsEarly.of_run`: What does not depend on the rules ends early.
* `Pipeline.ReachesRules.reachesEnd`: What gets as far as the rules reaches
  the end.
* `Pipeline.EndsEarly.not_reachesEnd`: No file does both.
* `Pipeline.run_ofLexer`: Each file does one of them.
* `analyze_contained`: Failures are contained.
-/

namespace TokenLint

/-- The place that a fault names, if it names one, begins with what can be read
    as a line. -/
def LexFault.IsLocated : LexFault → Prop
  | refused _ _ => True
  | stuck account => ∀ first more, account[1]? = some (.tuple (first :: more)) →
      ∃ n, first.asWhole = .ok n

theorem LexFault.IsLocated.exists_line {fault : LexFault} (h : fault.IsLocated) :
    ∃ n, fault.line = .ok n := by
  unfold LexFault.line
  split
  · exact ⟨_, rfl⟩
  · exact h _ _ rfl
  · exact ⟨0, rfl⟩

namespace FileOutcome

/-- The runs of the rules on a file, each with the name of its rule. -/
def runs : FileOutcome → List (String × RuleRun)
  | rejected _ | unreadable _ | untokenizable _ => []
  | checked _ runs => runs

/-- A file that was not checked has one finding, and no rule has run on it. -/
theorem ends_or_checked (path : Path) (outcome : FileOutcome) :
    (∃ d, outcome.diagnostics path = [d] ∧ d.isError = true ∧
      (d.source = .syntaxCheck ∨ d.source = .tokenizer)) ∧ outcome.runs = [] ∨
    ∃ size runs, outcome = .checked size runs := by
  cases outcome with
  | rejected report => exact .inl ⟨⟨_, rfl, rfl, .inl rfl⟩, rfl⟩
  | unreadable fault => exact .inl ⟨⟨_, rfl, rfl, .inr rfl⟩, rfl⟩
  | untokenizable r => exact .inl ⟨⟨_, rfl, rfl, .inr rfl⟩, rfl⟩
  | checked size runs => exact .inr ⟨size, runs, rfl⟩

end FileOutcome

/-- All findings of a rule come from the rule or from its failure. -/
theorem RuleRun.source_of_mem {path : Path} {rule : String} {run : RuleRun} {d : Diagnostic}
    (h : d ∈ run.diagnostics path rule) : d.source = .rule ∨ d.source = .ruleFailure := by
  simp only [RuleRun.diagnostics, List.mem_append, List.mem_map, Option.mem_toList,
    Option.map_eq_some_iff] at h
  rcases h with ⟨f, _, rfl⟩ | ⟨f, _, rfl⟩
  · exact .inl rfl
  · exact .inr rfl

/-- A file with findings of rules alone has failed if one of them is an error, and
    passed if not. -/
theorem FileStatus.ofDiagnostics_eq {ds : List Diagnostic}
    (h : ∀ d ∈ ds, d.source = .rule ∨ d.source = .ruleFailure) :
    (ofDiagnostics ds = .failed ↔ ∃ d ∈ ds, d.isError = true) ∧
      (ofDiagnostics ds = .passed ↔ ∀ d ∈ ds, d.isError = false) := by
  -- No finding is from an earlier stage.
  have hnone : (ds.any fun d => d.source = .syntaxCheck || d.source = .tokenizer) = false := by
    rw [List.any_eq_false]
    intro d hd
    rcases h d hd with hsource | hsource <;> rw [hsource] <;> decide
  rw [ofDiagnostics, hnone, if_neg Bool.false_ne_true]
  by_cases herror : ∃ d ∈ ds, d.isError = true
  · have hno : ¬∀ d ∈ ds, d.isError = false := by
      rcases herror with ⟨d, hd, herror⟩
      intro hall
      rw [hall d hd] at herror
      cases herror
    rw [if_pos (List.any_eq_true.mpr herror)]
    exact ⟨iff_of_true rfl herror, iff_of_false (by decide) hno⟩
  · have hall : ∀ d ∈ ds, d.isError = false := fun d hd =>
      Bool.eq_false_iff.mpr fun hd' => herror ⟨d, hd, hd'⟩
    rw [if_neg fun hany => herror (List.any_eq_true.mp hany)]
    exact ⟨iff_of_false (by decide) herror, iff_of_true rfl hall⟩

namespace Pipeline

/-- The stages that a lexer's output goes through: a syntax pre-check, if there
    is one, that always comes to a report, a reader, a lexer whose output may be
    another one for each file, and rules. -/
def ofLexer (check : Option (Path → String)) (read : Path → Except ReadFault (List Char))
    (lexer : Path → List Char → Lexing) (rules : List Rule) : Pipeline where
  check := check.map fun reportOn path => .ok (reportOn path)
  read
  tokenize path source := TokenLint.tokenize path source (lexer path source)
  rules

/-- A file that no rule has looked at. It has one finding, from a stage before
    the rules, which has to be mended; no rule has run on it, and what comes of it
    is the same with any rules. -/
structure EndsEarly (p : Pipeline) (path : Path) (ds : List Diagnostic) (status : FileStatus) :
    Prop where
  single : ∃ d, ds = [d] ∧ d.isError = true ∧ (d.source = .syntaxCheck ∨ d.source = .tokenizer)
  unruled : ∃ outcome : FileOutcome, outcome.runs = [] ∧
    ∀ rules, (p.withRules rules).run path = .ok ⟨path, outcome⟩
  status_eq : status = .syntaxError

/-- A file that all rules have looked at. Its tokens are the whole source, each
    rule has run once and in order, from the first token on, and the findings are
    those of the rules. -/
structure ReachesEnd (p : Pipeline) (path : Path) (ds : List Diagnostic) (status : FileStatus) :
    Prop where
  ruled : ∃ source stream, p.read path = .ok source ∧ p.tokenize path source = .ok stream ∧
    stream.text = source ∧
    p.run path = .ok ⟨path, .checked stream.size
      (p.rules.map fun r => (r.name, r.check ⟨path, stream.tokens, 0⟩))⟩ ∧
    ds = p.rules.flatMap fun r => (r.check ⟨path, stream.tokens, 0⟩).diagnostics path r.name
  source_of_mem : ∀ d ∈ ds, d.source = .rule ∨ d.source = .ruleFailure
  failed_iff : status = .failed ↔ ∃ d ∈ ds, d.isError = true
  passed_iff : status = .passed ↔ ∀ d ∈ ds, d.isError = false

variable {p : Pipeline} {path : Path}

/-- What comes of a file ends early if no rules make a difference to it and no
    rule has run. -/
theorem EndsEarly.of_run (outcome : FileOutcome)
    (hrun : ∀ rules, (p.withRules rules).run path = .ok ⟨path, outcome⟩)
    (hearly : ∀ size runs, outcome ≠ .checked size runs) :
    p.EndsEarly path (p.findings path) (.ofDiagnostics (p.findings path)) := by
  rcases outcome.ends_or_checked path with ⟨⟨d, hd, herror, hsource⟩, hruns⟩ | ⟨size, runs, hchecked⟩
  · have hfindings : p.findings path = [d] := (p.findings_of_run (hrun p.rules)).trans hd
    refine ⟨⟨d, hfindings, herror, hsource⟩, ⟨outcome, hruns, hrun⟩, ?_⟩
    rw [hfindings, FileStatus.ofDiagnostics, List.any_cons, if_pos]
    rcases hsource with hsource | hsource
    · simp only [hsource, decide_true, Bool.true_or]
    · simp only [hsource, decide_true, Bool.or_true, Bool.true_or]
  · exact absurd hchecked (hearly size runs)

/-- A file that gets as far as the rules, with its whole source, reaches the
    end. -/
theorem ReachesRules.reachesEnd {source : List Char} {stream : TokenStream}
    (h : p.ReachesRules path stream) (hread : p.read path = .ok source)
    (htokenize : p.tokenize path source = .ok stream) (htext : stream.text = source) :
    p.ReachesEnd path (p.findings path) (.ofDiagnostics (p.findings path)) := by
  have hfindings : p.findings path =
      p.rules.flatMap fun r => (r.check ⟨path, stream.tokens, 0⟩).diagnostics path r.name :=
    h.findings_eq p.rules
  have hsources : ∀ d ∈ p.findings path, d.source = .rule ∨ d.source = .ruleFailure := by
    intro d hd
    rw [hfindings, List.mem_flatMap] at hd
    rcases hd with ⟨r, _, hd⟩
    exact RuleRun.source_of_mem hd
  have hstatus := FileStatus.ofDiagnostics_eq hsources
  exact ⟨⟨source, stream, hread, htokenize, htext, h.run_eq p.rules, hfindings⟩, hsources,
    hstatus.1, hstatus.2⟩

/-- No file ends early and reaches the end. -/
theorem EndsEarly.not_reachesEnd {ds : List Diagnostic} {status : FileStatus}
    (h : p.EndsEarly path ds status) : ¬p.ReachesEnd path ds status := by
  intro hend
  rcases h.single with ⟨d, hds, herror, _⟩
  have hfailed := hend.failed_iff.mpr ⟨d, by rw [hds]; exact List.mem_cons_self, herror⟩
  rw [h.status_eq] at hfailed
  cases hfailed

section OfLexer

variable {check : Option (Path → String)} (read : Path → Except ReadFault (List Char))
  (lexer : Path → List Char → Lexing) (rules : List Rule)

theorem reportOn_ofLexer (check : Option (Path → String)) (path : Path) :
    (ofLexer check read lexer rules).reportOn path =
      .ok (check.bind fun reportOn => if reportOn path = "" then none else some (reportOn path)) := by
  cases check with
  | none => rfl
  | some reportOn => rfl

/-- A file on which the syntax pre-check has a report ends early, whatever the
    reader, the lexer and the rules are. -/
theorem run_ofLexer_rejected {reportOn : Path → String} (hcheck : check = some reportOn)
    (hreport : reportOn path ≠ "") :
    (ofLexer check read lexer rules).run path = .ok ⟨path, .rejected (reportOn path)⟩ := by
  rw [Pipeline.run_eq, reportOn_ofLexer, hcheck, Option.bind_some, if_neg hreport]

/-- The stages after the pre-check, for a file that passes it. -/
theorem run_ofLexer_passed (hpassed : ∀ reportOn ∈ check, reportOn path = "") :
    (ofLexer check read lexer rules).run path =
      ((ofLexer check read lexer rules).runChecked path).map fun outcome => ⟨path, outcome⟩ := by
  have hnone : (check.bind fun reportOn =>
      if reportOn path = "" then none else some (reportOn path)) = none := by
    cases check with
    | none => rfl
    | some reportOn => exact if_pos (hpassed reportOn rfl)
  rw [Pipeline.run_eq, reportOn_ofLexer, hnone]

/-- A file that cannot be read ends early. -/
theorem runChecked_unreadable {fault : ReadFault} (hread : read path = .error fault)
    (hfault : fault ≠ .file .unnameable) :
    (ofLexer check read lexer rules).runChecked path = .ok (.unreadable fault) := by
  have hread' : (ofLexer check read lexer rules).read path = .error fault := hread
  unfold runChecked
  rw [hread']
  split
  · rename_i h
    exact absurd (Except.error.inj h) hfault
  · rename_i h
    rw [Except.error.inj h]
  · rename_i h
    cases h

/-- A file whose lexer gives up ends early, at the line of the fault. -/
theorem runChecked_untokenizable {source : List Char} {fault : LexFault} {line : Int}
    (hread : read path = .ok source) (hfault : (lexer path source).fault = some fault)
    (hline : fault.line = .ok line) :
    (ofLexer check read lexer rules).runChecked path =
      .ok (.untokenizable ⟨path, line, fault.message⟩) := by
  have hread' : (ofLexer check read lexer rules).read path = .ok source := hread
  have htokenize : (ofLexer check read lexer rules).tokenize path source =
      .error (.rejected ⟨path, line, fault.message⟩) := by
    change TokenLint.tokenize path source (lexer path source) = _
    rw [TokenLint.tokenize, hfault]
    simp only [hline]
  simp only [runChecked, hread', htokenize]

/-- A file whose lexer does not give up reaches the rules, with its whole
    source. -/
theorem reachesRules_ofLexer {source : List Char}
    (hpassed : ∀ reportOn ∈ check, reportOn path = "") (hread : read path = .ok source)
    (hnone : (lexer path source).fault = none) :
    ∃ stream, (ofLexer check read lexer rules).tokenize path source = .ok stream ∧
      stream.text = source ∧ (ofLexer check read lexer rules).ReachesRules path stream := by
  have htokenize : (ofLexer check read lexer rules).tokenize path source =
      .ok (.ofTokens path (tokensFrom path source .origin 0
        (spansOf source (lexer path source).lexemes))) := by
    change TokenLint.tokenize path source (lexer path source) = _
    rw [TokenLint.tokenize, hnone]
  refine ⟨_, htokenize, flatMap_text_tokensFrom path source _, ?_, ⟨source, hread, htokenize⟩, rfl⟩
  rw [reportOn_ofLexer]
  cases check with
  | none => rfl
  | some reportOn => exact congrArg Except.ok (if_pos (hpassed reportOn rfl))

/-- Each file ends early or reaches the end. -/
theorem run_ofLexer (hread : read path ≠ .error (.file .unnameable))
    (hlexer : ∀ source, read path = .ok source →
      ∀ fault ∈ (lexer path source).fault, fault.IsLocated) :
    let p := ofLexer check read lexer rules
    p.EndsEarly path (p.findings path) (.ofDiagnostics (p.findings path)) ∨
      p.ReachesEnd path (p.findings path) (.ofDiagnostics (p.findings path)) := by
  by_cases hreport : ∃ reportOn ∈ check, reportOn path ≠ ""
  · rcases hreport with ⟨reportOn, hcheck, hreport⟩
    exact .inl (.of_run (.rejected (reportOn path))
      (fun rules' => run_ofLexer_rejected read lexer rules' hcheck hreport) fun _ _ => nofun)
  · have hempty : ∀ reportOn ∈ check, reportOn path = "" := fun reportOn hcheck =>
      Decidable.byContradiction fun h => hreport ⟨reportOn, hcheck, h⟩
    -- The same stages with any rules, up to the point where the rules come in.
    have hpassed : ∀ rules', ((ofLexer check read lexer rules).withRules rules').run path =
        ((ofLexer check read lexer rules').runChecked path).map fun outcome => ⟨path, outcome⟩ :=
      fun rules' => run_ofLexer_passed read lexer rules' hempty
    cases hsource : read path with
    | error fault =>
        have hfault : fault ≠ .file .unnameable := fun h => hread (by rw [hsource, h])
        refine .inl (.of_run (.unreadable fault) (fun rules' => ?_) fun _ _ => nofun)
        rw [hpassed, runChecked_unreadable read lexer rules' hsource hfault]
        rfl
    | ok source =>
        cases hfault : (lexer path source).fault with
        | some fault =>
            rcases (hlexer source hsource fault hfault).exists_line with ⟨line, hline⟩
            refine .inl (.of_run (.untokenizable ⟨path, line, fault.message⟩) (fun rules' => ?_)
              fun _ _ => nofun)
            rw [hpassed, runChecked_untokenizable read lexer rules' hsource hfault hline]
            rfl
        | none =>
            rcases reachesRules_ofLexer read lexer rules hempty hsource hfault with
              ⟨stream, htokenize, htext, hreach⟩
            exact .inr (hreach.reachesEnd hsource htokenize htext)

end OfLexer

end Pipeline

/-- Failures of files are contained. Let the pre-check, if there is one, report
    on each file, let each file have a text or a reason why it cannot be read, and
    let the lexer give up wherever it likes, at a place that has a line in front if
    it has one. Then there is a report on the files, each of which ends early or
    reaches the end, and not both. A file on which the pre-check has a report ends
    early whatever is in it, and so does a file whose lexer gives up, with one
    finding at the line of the fault. -/
theorem analyze_contained (check : Option (Path → String))
    (read : Path → Except ReadFault (List Char)) (lexer : Path → List Char → Lexing)
    (rules : List Rule) (schedule : List Path → List Path) (workers : Int) (files : List Path)
    (hworkers : 1 ≤ workers) (hschedule : (schedule (distinct files)).Perm (distinct files))
    (hread : ∀ path ∈ files, read path ≠ .error (.file .unnameable))
    (hlexer : ∀ path ∈ files, ∀ source, read path = .ok source →
      ∀ fault ∈ (lexer path source).fault, fault.IsLocated) :
    let p := Pipeline.ofLexer check read lexer rules
    ∃ report, (analyze p schedule workers files).result = .ok report ∧
      report.files = files.eraseDups ∧
      ∀ path ∈ files, ∃ ds status,
        report.diagnostics? (some path) = .ok ds ∧ report.status path = .ok status ∧
        (p.EndsEarly path ds status ∨ p.ReachesEnd path ds status) ∧
        ¬(p.EndsEarly path ds status ∧ p.ReachesEnd path ds status) ∧
        (∀ reportOn ∈ check, reportOn path ≠ "" → p.EndsEarly path ds status ∧
          ∀ read', (Pipeline.ofLexer check read' lexer rules).run path = p.run path) ∧
        ∀ source, (∀ reportOn ∈ check, reportOn path = "") → read path = .ok source →
          ∀ fault ∈ (lexer path source).fault, p.EndsEarly path ds status ∧
            ∃ line, fault.line = .ok line ∧
              ds = [⟨path, .error, line, if 0 < line then 1 else 0,
                s!"Cannot tokenize file: {fault.message}", .tokenizer, none⟩] := by
  intro p
  have hends : ∀ path ∈ files,
      p.EndsEarly path (p.findings path) (.ofDiagnostics (p.findings path)) ∨
        p.ReachesEnd path (p.findings path) (.ofDiagnostics (p.findings path)) :=
    fun path hpath => Pipeline.run_ofLexer read lexer rules (hread path hpath) (hlexer path hpath)
  have hcomplete : p.Completes files := by
    intro path hpath
    rcases hends path hpath with hearly | hend
    · rcases hearly.unruled with ⟨outcome, _, hrun⟩
      exact ⟨_, hrun p.rules⟩
    · rcases hend.ruled with ⟨_, stream, _, _, _, hrun, _⟩
      exact ⟨_, hrun⟩
  rcases analyzeWith_eq .silent p schedule workers files hworkers (.inr hschedule) hcomplete
    (fun _ => rfl) with ⟨_, _, hanalysis⟩
  refine ⟨p.reportOf (distinct files), by rw [analyze, hanalysis], ?_, ?_⟩
  · rw [Report.files_reportOf, distinct_eq_eraseDups]
  · intro path hpath
    have hmem := (mem_distinct path files).mpr hpath
    refine ⟨_, _, Report.diagnostics?_reportOf p _ path hmem, Report.status_reportOf p _ path hmem,
      hends path hpath, fun h => h.1.not_reachesEnd h.2, ?_, ?_⟩
    · intro reportOn hcheck hreport
      have hrun := Pipeline.run_ofLexer_rejected read lexer rules hcheck hreport
      refine ⟨.of_run (.rejected (reportOn path))
        (fun rules' => Pipeline.run_ofLexer_rejected read lexer rules' hcheck hreport)
        (fun _ _ hchecked => by cases hchecked), fun read' => ?_⟩
      rw [hrun, Pipeline.run_ofLexer_rejected read' lexer rules hcheck hreport]
    · intro source hpassed hsource fault hfault
      rcases (hlexer path hpath source hsource fault hfault).exists_line with ⟨line, hline⟩
      have hrun : ∀ rules', (p.withRules rules').run path =
          .ok ⟨path, .untokenizable ⟨path, line, fault.message⟩⟩ := by
        intro rules'
        have hpassed' := Pipeline.run_ofLexer_passed read lexer rules' hpassed
        rw [Pipeline.runChecked_untokenizable read lexer rules' hsource hfault hline] at hpassed'
        exact hpassed'
      exact ⟨.of_run _ hrun (fun _ _ hchecked => by cases hchecked), line, hline,
        p.findings_of_run (hrun rules)⟩

/-- A file in the working directory. -/
def fileNamed (name : String) : Path := ⟨"", [name]⟩

/-- A pre-check that has a report on the file `a`. -/
def troubledCheck (path : Path) : String :=
  if path = fileNamed "a" then "SyntaxError: invalid syntax" else ""

/-- A reader to which the file `b` is closed. -/
def troubledRead (path : Path) : Except ReadFault (List Char) :=
  if path = fileNamed "b" then .error (.file (.refused 13 "[Errno 13] Permission denied: 'b'"))
  else .ok ['(', '\n']

/-- A lexer that gives up on the file `c` after one lexeme. -/
def troubledLexer (path : Path) (_ : List Char) : Lexing :=
  if path = fileNamed "c" then
    ⟨[⟨.op, ['('], ⟨1, 0⟩, ⟨1, 1⟩⟩],
      some (.stuck [.string "EOF in multi-line statement", .tuple [.int 2, .int 0]])⟩
  else ⟨[], none⟩

theorem analyze_contained_troubled :
    let files := [fileNamed "a", fileNamed "b", fileNamed "c", fileNamed "d", fileNamed "b"]
    (∀ path ∈ files, troubledRead path ≠ .error (.file .unnameable)) ∧
    (∀ path ∈ files, ∀ source, troubledRead path = .ok source →
      ∀ fault ∈ (troubledLexer path source).fault, fault.IsLocated) ∧
    ∃ report,
      (analyze (.ofLexer (some troubledCheck) troubledRead troubledLexer [breakingRule])
        List.reverse 3 files).result = .ok report ∧
      report.files = [fileNamed "a", fileNamed "b", fileNamed "c", fileNamed "d"] ∧
      report.diagnostics? (some (fileNamed "c")) = .ok [⟨fileNamed "c", .error, 2, 1,
        "Cannot tokenize file: EOF in multi-line statement", .tokenizer, none⟩] := by
  intro files
  have hread : ∀ path ∈ files, troubledRead path ≠ .error (.file .unnameable) := by
    intro path _ h
    rw [troubledRead] at h
    split at h <;> cases h
  have hlexer : ∀ path ∈ files, ∀ source, troubledRead path = .ok source →
      ∀ fault ∈ (troubledLexer path source).fault, fault.IsLocated := by
    intro path _ source _ fault hfault
    rw [troubledLexer] at hfault
    split at hfault
    · rw [← Option.some.inj hfault]
      intro first more hplace
      cases hplace
      exact ⟨2, rfl⟩
    · cases hfault
  refine ⟨hread, hlexer, ?_⟩
  rcases analyze_contained (some troubledCheck) troubledRead troubledLexer [breakingRule]
    List.reverse 3 files (by decide) (List.reverse_perm _) hread hlexer with
    ⟨report, hreport, hfiles, hends⟩
  have hc : fileNamed "c" ∈ files := by decide
  rcases hends _ hc with ⟨ds, _, hds, _, _, _, _, hraise⟩
  have hpassed : ∀ reportOn ∈ some troubledCheck, reportOn (fileNamed "c") = "" := by
    intro reportOn hcheck
    rw [← Option.some.inj hcheck]
    rfl
  rcases hraise ['(', '\n'] hpassed rfl _ rfl with ⟨_, line, hline, hfound⟩
  cases hline
  refine ⟨report, hreport, ?_, ?_⟩
  · rw [hfiles]
    decide
  · rw [hds, hfound]
    rfl

end TokenLint
