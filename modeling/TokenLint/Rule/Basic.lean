import TokenLint.Token.Stream
import TokenLint.Vocabulary

/-!
# Rules

A rule looks at the token stream of a file and reports findings. It may move the cursor as it likes, and
it may fail, at once or after some findings. It keeps nothing from one file to the next, so it is a
function of the stream; its options are fixed when it is made.

## Main definitions

* `Finding`: What a rule reports.
* `RuleFault`: How a rule fails.
* `RuleRun`: What comes of a rule's look at a stream.
* `Rule`: The rules.
* `Rule.run`: The run of a rule on a stream, from its first token on.
* `Rule.runAll`: The runs of rules that share a stream.
-/

namespace TokenLint

/-- What a rule reports: a severity, a place and a message. -/
structure Finding where
  /-- How bad it is. -/
  severity : Severity
  /-- The line, counted from one. -/
  line : Int
  /-- The column, counted from one. -/
  column : Int
  /-- What it says. -/
  message : String
deriving DecidableEq, Repr

/-- How a rule fails. -/
inductive RuleFault where
  /-- It says that it cannot check the file. -/
  | declined (message : String)
  /-- It breaks down, with a fault of some kind. -/
  | crashed (kind text : String)
deriving DecidableEq, Repr

/-- How the fault reads. -/
def RuleFault.message : RuleFault → String
  | declined message => message
  | crashed kind text => s!"{kind}: {text}"

/-- What comes of a rule's look at a stream. -/
structure RuleRun where
  /-- What it reported, in order. -/
  findings : List Finding
  /-- Where it left the cursor. -/
  position : Nat
  /-- How it failed, if it did. -/
  fault : Option RuleFault
deriving DecidableEq, Repr

/-- The options of a rule, each a whole number, by name. -/
abbrev Options := List (String × Int)

/-- A rule. -/
structure Rule where
  /-- Its name. -/
  name : String
  /-- The severity of its own findings. -/
  severity : Severity
  /-- The options it was made with. -/
  options : Options
  /-- What it makes of a stream. -/
  check : TokenStream → RuleRun

/-- The run of a rule on a stream, from its first token on. -/
def Rule.run (r : Rule) (s : TokenStream) : RuleRun := r.check s.rewind

/-- The runs of rules that share a stream, one rule after the other, behind the runs that are done. A rule
finds the cursor where the one before it left it. -/
def Rule.runAll (s : TokenStream) (done : List (String × RuleRun)) :
    List Rule → List (String × RuleRun)
  | [] => done
  | r :: rules =>
    let run := r.run s
    runAll { s with position := run.position } (done ++ [(r.name, run)]) rules

/-- A rule that reads the stream to its end and cannot fail, given what it reports of the tokens. -/
def Rule.ofTokens (name : String) (severity : Severity) (options : Options)
    (findings : List Token → List Finding) : Rule where
  name
  severity
  options
  check s := ⟨findings s.remaining, s.finish.position, none⟩

end TokenLint
