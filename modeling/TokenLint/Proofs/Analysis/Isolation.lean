import TokenLint.Proofs.Analysis.Schedule

/-!
# Isolation of Rules

The rules of a file share a stream, and with it a cursor that each of them may
leave anywhere. They also share the findings about the file, behind which each
of them puts its own, and any of them may break down on the way. None of this
reaches another rule. The cursor is taken back to the first token before each
rule, so `run_moved` is the whole of what a rule can do to the next one, and a
failure is one more finding of the rule that failed.

`runAll_eq` carries that along the list of rules. The loop hands on the stream
as the last rule left it, so the induction is over streams that differ in the
cursor only. From there on the findings about a file are those of each rule
put together, and rules can be added at either end without a change to what
the others find.

## Main definitions

* `Pipeline.withRules`: The stages with other rules.
* `Pipeline.ReachesRules`: A file whose source reaches the rules, as a stream.

## Theorems

* `Rule.run_moved`: What a rule makes of a stream whose cursor has moved.
* `Rule.runAll_eq`: Each rule runs as it does on its own.
* `Pipeline.ReachesRules.run_eq`: What comes of a file that reaches the rules.
* `rules_isolated`: Rules do not change what other rules find.
-/

namespace TokenLint

namespace Rule

/-- A rule makes the same of a stream wherever its cursor is. -/
theorem run_moved (r : Rule) (s : TokenStream) (position : Nat) :
    r.run { s with position := position } = r.run s := by
  rw [run, run, TokenStream.rewind, TokenStream.rewind]

/-- Each rule runs as it does on its own, whatever the rules before it do to
    the cursor and whether or not they fail. -/
theorem runAll_eq (rules : List Rule) : ∀ (s : TokenStream) (done : List (String × RuleRun)),
    runAll s done rules = done ++ rules.map fun r => (r.name, r.run s) := by
  induction rules with
  | nil =>
      intro s done
      rw [runAll, List.map_nil, List.append_nil]
  | cons r rules ih =>
      intro s done
      have hmoved : ∀ q : Rule, q.run { s with position := (r.run s).position } = q.run s :=
        fun q => q.run_moved s _
      rw [runAll]
      simp only [ih, hmoved]
      rw [List.map_cons, List.append_assoc, List.singleton_append]

end Rule

namespace Pipeline

/-- The stages with other rules. -/
def withRules (p : Pipeline) (rules : List Rule) : Pipeline := { p with rules }

/-- A file whose source reaches the rules, as a stream: the syntax pre-check has
    nothing to report, and the file can be read and split into tokens. -/
structure ReachesRules (p : Pipeline) (path : Path) (stream : TokenStream) : Prop where
  passed : p.reportOn path = .ok none
  tokenized : ∃ source, p.read path = .ok source ∧ p.tokenize path source = .ok stream
  path_eq : stream.path = path

namespace ReachesRules

variable {p : Pipeline} {path : Path} {stream : TokenStream}

/-- The rules of a file that reaches them each run once, in order, from the
    first token on. -/
theorem run_eq (h : p.ReachesRules path stream) (rules : List Rule) :
    (p.withRules rules).run path = .ok ⟨path, .checked stream.size
      (rules.map fun r => (r.name, r.check ⟨path, stream.tokens, 0⟩))⟩ := by
  rcases h.tokenized with ⟨source, hsource, hstream⟩
  -- Only the last stage looks at the rules.
  have hpassed : (p.withRules rules).reportOn path = .ok none := h.passed
  have hread : (p.withRules rules).read path = .ok source := hsource
  have htokenize : (p.withRules rules).tokenize path source = .ok stream := hstream
  have hrewound : stream.rewind = ⟨path, stream.tokens, 0⟩ := by
    rw [TokenStream.rewind, h.path_eq]
  have hchecked : (p.withRules rules).runChecked path =
      .ok (.checked stream.size (Rule.runAll stream [] rules)) := by
    simp only [runChecked, hread, htokenize]
    rw [if_neg fun hother => hother.1 h.path_eq, withRules]
  rw [Pipeline.run_eq, hpassed]
  simp only [hchecked, Rule.runAll_eq, Rule.run, hrewound, List.nil_append, Except.map]

/-- The findings about a file that reaches the rules are those of each rule. -/
theorem findings_eq (h : p.ReachesRules path stream) (rules : List Rule) :
    (p.withRules rules).findings path =
      rules.flatMap fun r => (r.check ⟨path, stream.tokens, 0⟩).diagnostics path r.name := by
  rw [findings_of_run _ (h.run_eq rules), FileReport.diagnostics, FileOutcome.diagnostics,
    List.flatMap_map]

/-- The report on a file that reaches the rules lists what they find. -/
theorem analyze_eq (h : p.ReachesRules path stream) (rules : List Rule)
    (schedule : List Path → List Path) (workers : Int) (hworkers : 1 ≤ workers) :
    (analyze (p.withRules rules) schedule workers [path]).result =
      .ok ⟨[(path, (p.withRules rules).findings path)]⟩ := by
  have hcomplete : (p.withRules rules).Completes [path] := by
    intro q hq
    rw [List.mem_singleton] at hq
    rw [hq]
    exact ⟨_, h.run_eq rules⟩
  -- A single file leaves nothing to the schedule.
  rcases analyzeWith_eq .silent (p.withRules rules) schedule workers [path] hworkers
    (Or.inl (Or.inr (Nat.le_refl 1))) hcomplete (fun _ => rfl) with ⟨_, _, hrun⟩
  rw [analyze, hrun]
  rfl

end ReachesRules

end Pipeline

/-- Rules are isolated from each other. Of a file that reaches the rules, each
    rule sees the stream from its first token on, whatever rules run with it.
    The findings of two lists of rules are those of the one followed by those
    of the other. What one rule finds is what it reports, in order, and one
    more finding if it fails. -/
theorem rules_isolated (p : Pipeline) (path : Path) (stream : TokenStream)
    (hreach : p.ReachesRules path stream) :
    (∀ rules : List Rule,
      (p.withRules rules).run path = .ok ⟨path, .checked stream.size
        (rules.map fun r => (r.name, r.check ⟨path, stream.tokens, 0⟩))⟩ ∧
      ∀ (schedule : List Path → List Path) (workers : Int), 1 ≤ workers →
        (analyze (p.withRules rules) schedule workers [path]).result =
          .ok ⟨[(path, (p.withRules rules).findings path)]⟩) ∧
    (∀ first second : List Rule, (p.withRules (first ++ second)).findings path =
      (p.withRules first).findings path ++ (p.withRules second).findings path) ∧
    ∀ r : Rule, (p.withRules [r]).findings path =
      (r.check ⟨path, stream.tokens, 0⟩).findings.map (fun f =>
        ⟨path, f.severity, f.line, f.column, f.message, .rule, some r.name⟩) ++
      match (r.check ⟨path, stream.tokens, 0⟩).fault with
      | none => []
      | some fault => [⟨path, .error, 0, 0, s!"Rule '{r.name}' failed: {fault.message}",
          .ruleFailure, some r.name⟩] := by
  refine ⟨fun rules => ⟨hreach.run_eq rules, hreach.analyze_eq rules⟩, ?_, ?_⟩
  · intro first second
    rw [hreach.findings_eq, hreach.findings_eq, hreach.findings_eq, List.flatMap_append]
  · intro r
    rw [hreach.findings_eq, List.flatMap_singleton, RuleRun.diagnostics]
    congr 1
    cases (r.check ⟨path, stream.tokens, 0⟩).fault with
    | none => rfl
    | some fault => rfl

/-- Stages that hand on a stream of one token, the cursor behind it. -/
def lateCursor : Pipeline where
  check := none
  read _ := .ok ['x', '\n']
  tokenize path source := (tokenize path source ⟨[], none⟩).map (·.finish)
  rules := []

/-- A rule that reports a token, moves the cursor far away and breaks down. -/
def breakingRule : Rule where
  name := "breaking"
  severity := .error
  options := []
  check _ := ⟨[⟨.warning, 1, 1, "seen"⟩], 7, some (.crashed "KeyError" "'x'")⟩

/-- A rule that reports where it finds the cursor. -/
def cursorRule : Rule where
  name := "cursor"
  severity := .warning
  options := []
  check s := ⟨[⟨.warning, 1, (s.position : Int), "here"⟩], s.position, none⟩

theorem rules_isolated_breaking :
    ∃ stream, lateCursor.ReachesRules .here stream ∧ stream.position = 1 ∧
      (lateCursor.withRules ([breakingRule] ++ [cursorRule])).findings .here =
        [⟨.here, .warning, 1, 1, "seen", .rule, some "breaking"⟩,
          ⟨.here, .error, 0, 0, "Rule 'breaking' failed: KeyError: 'x'", .ruleFailure,
            some "breaking"⟩,
          ⟨.here, .warning, 1, 0, "here", .rule, some "cursor"⟩] := by
  have hreach : lateCursor.ReachesRules .here
      ⟨.here, [⟨.errorToken, ['x', '\n'], 1, 1, 0, .here⟩], 1⟩ :=
    ⟨rfl, ⟨['x', '\n'], rfl, rfl⟩, rfl⟩
  rcases rules_isolated lateCursor .here _ hreach with ⟨_, happend, hone⟩
  refine ⟨_, hreach, rfl, ?_⟩
  rw [happend, hone, hone]
  rfl

end TokenLint
