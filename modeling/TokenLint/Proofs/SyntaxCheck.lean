import TokenLint.Analysis.Pipeline
import TokenLint.Proofs.Text.Blank

/-!
# Reports of the Pre-Check

An interpreter that does not take a file leaves text in two places, and what a
user sees of it is one line. The text is chosen first and looked at later: the
complaints count only where there is no output at all, so an output of blanks
hides them, and the user is told no more than that the check failed.
`SyntaxCheck.Shows` lists what there is to see in each case.

Whatever is seen is a line that can be read. A report is either the fixed one or
was stripped, so its first character is no blank, and neither a line end nor the
return in front of one can take that away (`SyntaxCheck.visible_headline`).

## Main definitions

* `SyntaxCheck.headline`: The first line of a text without blanks around it.
* `SyntaxCheck.Shows`: The message that an output comes to.

## Theorems

* `SyntaxCheck.visible_headline`: A text that is not blank has a first line.
* `SyntaxCheck.shows_firstLine_report`: What is seen of a report.
* `Interpreter.report_eq_empty_iff`: There is a report if the exit code is not zero.
* `Interpreter.check_shows`: What an interpreter's output comes to.
* `Interpreter.check_hides_complaint`: A blank line that hides a complaint.
-/

namespace TokenLint

namespace SyntaxCheck

open Text (Visible)

/-- The first line of a text without blanks around it. -/
def headline (s : String) : String :=
  String.ofList (Text.dropReturn ((Text.strip s).toList.takeWhile (· != '\n')))

/-- The message that an output comes to, if the file was not taken. -/
inductive Shows (out : CommandOutput) : String → Prop
  /-- There is an output. -/
  | output (hvisible : Visible out.stdout) : Shows out (headline out.stdout)
  /-- There is a complaint in place of an output. -/
  | complaint (hnone : out.stdout = "") (hvisible : Visible out.stderr) :
      Shows out (headline out.stderr)
  /-- There is neither. -/
  | silent (hnone : out.stdout = "") (hblank : ¬ Visible out.stderr) : Shows out fallbackReport
  /-- There is an output of blanks, whatever complaint there is. -/
  | blank (hsome : out.stdout ≠ "") (hblank : ¬ Visible out.stdout) : Shows out fallbackReport

/-- The first line of a text that is not blank starts with a character that is no blank, and
    has no line feed. -/
theorem exists_headline_cons {s : String} (h : Visible s) :
    ∃ c cs, (headline s).toList = c :: cs ∧ Text.isBlank c = false ∧ '\n' ∉ cs := by
  obtain ⟨c, cs, hcons, hc⟩ := Text.exists_strip_cons h
  have hne : ∀ d, Text.isBlank d = true → c ≠ d := by
    rintro d hd rfl
    rw [hd] at hc
    cases hc
  have hfeed : '\n' ∉ cs.takeWhile (· != '\n') := fun hmem =>
    absurd (List.all_eq_true.mp List.all_takeWhile _ hmem) (by decide)
  have hline : (Text.strip s).toList.takeWhile (· != '\n') = c :: cs.takeWhile (· != '\n') := by
    have hkeep : (c != '\n') = true := bne_iff_ne.mpr (hne '\n' rfl)
    rw [hcons, List.takeWhile_cons, hkeep, if_pos rfl]
  rw [headline, String.toList_ofList, hline, Text.dropReturn]
  split
  · rename_i hreturn
    cases hrest : cs.takeWhile (· != '\n') with
    | nil =>
        -- The return would be all there is, and it is a blank.
        rw [hrest, List.getLast?_singleton, Option.some.injEq] at hreturn
        exact absurd hreturn (hne '\r' rfl)
    | cons d ds =>
        exact ⟨c, (d :: ds).dropLast, rfl, hc, fun hmem =>
          hfeed (hrest ▸ (List.dropLast_sublist _).subset hmem)⟩
  · exact ⟨c, _, rfl, hc, hfeed⟩

theorem visible_headline {s : String} (h : Visible s) :
    Visible (headline s) ∧ '\n' ∉ (headline s).toList := by
  obtain ⟨c, cs, hcons, hc, hfeed⟩ := exists_headline_cons h
  rw [Visible, hcons]
  refine ⟨⟨c, List.mem_cons_self, hc⟩, fun hmem => ?_⟩
  rcases List.mem_cons.mp hmem with rfl | hmem
  · cases hc
  · exact hfeed hmem

/-- Whatever is seen is a line that can be read. -/
theorem Shows.visible {out : CommandOutput} {message : String} (h : Shows out message) :
    Visible message ∧ '\n' ∉ message.toList := by
  have hfallback : Visible fallbackReport ∧ '\n' ∉ fallbackReport.toList :=
    ⟨⟨'S', by decide, rfl⟩, by decide⟩
  cases h with
  | output hvisible => exact visible_headline hvisible
  | complaint _ hvisible => exact visible_headline hvisible
  | silent => exact hfallback
  | blank => exact hfallback

/-- What is seen of a stripped text is its first line. -/
theorem firstLine_strip {s : String} (h : Visible s) : firstLine (Text.strip s) = headline s := by
  obtain ⟨c, cs, hcons, _⟩ := exists_headline_cons h
  rw [headline, String.toList_ofList] at hcons
  rw [firstLine, headline]
  simp only [hcons, List.isEmpty_cons, Bool.false_eq_true, if_false]

end SyntaxCheck

namespace Interpreter

open SyntaxCheck
open Text (Visible)

variable {out : CommandOutput}

theorem report_eq_empty_iff : report out = "" ↔ out.exitCode = 0 := by
  rw [report]
  split
  · rename_i hcode
    exact iff_of_true rfl hcode
  · rename_i hcode
    refine iff_of_false (fun hempty => ?_) hcode
    rw [orElse] at hempty
    split at hempty
    · exact absurd hempty (by decide)
    · rename_i hsome
      exact hsome hempty

/-- A report is what is left of the output, or of the complaints if there is no output. -/
theorem report_of_visible (hcode : out.exitCode ≠ 0) (h : Visible (orElse out.stdout out.stderr)) :
    report out = Text.strip (orElse out.stdout out.stderr) := by
  rw [report, if_neg hcode, orElse, if_neg fun hempty => Text.strip_eq_empty_iff.mp hempty h]

theorem report_of_blank (hcode : out.exitCode ≠ 0)
    (h : ¬ Visible (orElse out.stdout out.stderr)) : report out = fallbackReport := by
  rw [report, if_neg hcode, orElse, if_pos (Text.strip_eq_empty_iff.mpr h)]

/-- What is seen of a report. -/
theorem shows_firstLine_report (hcode : out.exitCode ≠ 0) : Shows out (firstLine (report out)) := by
  have hvisible := @report_of_visible out hcode
  have hblank := @report_of_blank out hcode
  by_cases hnone : out.stdout = ""
  · rw [orElse, if_pos hnone] at hvisible hblank
    by_cases h : Visible out.stderr
    · rw [hvisible h, firstLine_strip h]
      exact .complaint hnone h
    · rw [hblank h]
      exact .silent hnone h
  · rw [orElse, if_neg hnone] at hvisible hblank
    by_cases h : Visible out.stdout
    · rw [hvisible h, firstLine_strip h]
      exact .output h
    · rw [hblank h]
      exact .blank hnone h

/-- The report on an output that the interpreter leaves. -/
theorem check_of_output {i : Interpreter} {path : Path} (hnamed : i.executable ≠ "")
    (hout : i.runner (i.checkCommand path) = .ok out) : i.check path = .ok (report out) := by
  have hrun : i.runner.run (i.checkCommand path) = .ok out := by
    rw [Runner.run]
    · rw [hout, Except.mapError]
    · exact List.cons_ne_nil _ _
    · exact fun _ hempty => hnamed (List.cons.inj hempty).1
  rw [check, output, hrun]
  rfl

/-- A file that there is a report on has the first line of it as its only finding. -/
theorem run_of_check {i : Interpreter} {path : Path} {complaint : String} {p : Pipeline}
    (hp : p.check = some i.check) (hcheck : i.check path = .ok complaint) (hsome : complaint ≠ "") :
    p.run path = .ok ⟨path, .rejected complaint⟩ := by
  have hreport : p.reportOn path = .ok (some complaint) := by
    rw [Pipeline.reportOn, hp]
    simp only [hcheck, Except.map, if_neg hsome]
  rw [Pipeline.run, hreport]
  rfl

/-- An interpreter that leaves an output has a report on the file if and only if the exit code
    is not zero. Then the file has one finding, whose message can be read in one line: the
    first line of the output, or of the complaints if there is no output at all, and the fixed
    one if what was chosen so is blank. -/
theorem check_shows {i : Interpreter} {path : Path} (hnamed : i.executable ≠ "")
    (hout : i.runner (i.checkCommand path) = .ok out) :
    ∃ complaint, i.check path = .ok complaint ∧ (complaint = "" ↔ out.exitCode = 0) ∧
      (out.exitCode ≠ 0 → ∃ message, Shows out message ∧
        Visible message ∧ '\n' ∉ message.toList ∧
        ∀ p : Pipeline, p.check = some i.check → ∃ r, p.run path = .ok r ∧
          r.diagnostics = [⟨path, .error, 0, 0, message, .syntaxCheck, none⟩]) := by
  have hcheck := check_of_output hnamed hout
  refine ⟨_, hcheck, report_eq_empty_iff, fun hcode => ?_⟩
  have hshows := shows_firstLine_report hcode
  refine ⟨_, hshows, hshows.visible.1, hshows.visible.2, fun p hp => ?_⟩
  exact ⟨_, run_of_check hp hcheck fun hempty => hcode (report_eq_empty_iff.mp hempty), rfl⟩

/-- The file that an interpreter looks at. -/
def brokenFile : Path := ⟨"", ["a.py"]⟩

/-- An interpreter that leaves a given output. -/
def leaving (out : CommandOutput) : Interpreter := ⟨"python3", fun _ => .ok out⟩

/-- Stages of which the pre-check is the only one that matters. -/
def checkedBy (i : Interpreter) : Pipeline where
  check := some i.check
  read _ := .ok []
  tokenize path source := TokenLint.tokenize path source ⟨[], none⟩
  rules := []

/-- An output of several lines, with a blank one in front. -/
def spreadOutput : CommandOutput := ⟨"\n  SyntaxError: invalid syntax\r\nmore\n", "", 1⟩

theorem check_shows_spread :
    (leaving spreadOutput).executable ≠ "" ∧ spreadOutput.exitCode ≠ 0 ∧
      ∃ r, (checkedBy (leaving spreadOutput)).run brokenFile = .ok r ∧
        r.diagnostics = [⟨brokenFile, .error, 0, 0, "SyntaxError: invalid syntax", .syntaxCheck,
          none⟩] := by
  have hnamed : (leaving spreadOutput).executable ≠ "" := by decide
  have hcode : spreadOutput.exitCode ≠ 0 := by decide
  have hout : (leaving spreadOutput).runner ((leaving spreadOutput).checkCommand brokenFile) =
      .ok spreadOutput := rfl
  obtain ⟨_, _, _, hshown⟩ := check_shows hnamed hout
  obtain ⟨message, hshows, _, _, hrun⟩ := hshown hcode
  have hmessage : message = "SyntaxError: invalid syntax" := by
    cases hshows with
    | output => decide +kernel
    | complaint hnone => exact absurd hnone (by decide)
    | silent hnone => exact absurd hnone (by decide)
    | blank _ hblank => exact absurd ⟨'S', by decide, rfl⟩ hblank
  rw [← hmessage]
  exact ⟨hnamed, hcode, hrun (checkedBy (leaving spreadOutput)) rfl⟩

/-- An output of one blank line, and a complaint. -/
def mutedOutput : CommandOutput := ⟨"\n", "SyntaxError: invalid syntax in a.py on line 1\n", 1⟩

/-- The complaint can be read and the output cannot, and the user is told neither. -/
theorem check_hides_complaint :
    mutedOutput.exitCode ≠ 0 ∧ ¬ Visible mutedOutput.stdout ∧ Visible mutedOutput.stderr ∧
      ∃ r, (checkedBy (leaving mutedOutput)).run brokenFile = .ok r ∧
        r.diagnostics = [⟨brokenFile, .error, 0, 0, fallbackReport, .syntaxCheck, none⟩] ∧
        fallbackReport ≠ headline mutedOutput.stderr := by
  have hblank : ¬ Visible mutedOutput.stdout := by
    rintro ⟨c, hc, hvisible⟩
    rw [List.mem_singleton.mp hc] at hvisible
    cases hvisible
  refine ⟨by decide, hblank, ⟨'S', by decide, rfl⟩, _, rfl, ?_, by decide +kernel⟩
  decide +kernel

end Interpreter

end TokenLint
