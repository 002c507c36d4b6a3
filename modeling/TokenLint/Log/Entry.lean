import TokenLint.Log.Instant
import TokenLint.Log.Record
import TokenLint.Log.Template

/-!
# Log entries

What is handed over to be logged: a template and its arguments, the instant, and fields. It becomes a
record once the template is filled, and the record is written. The fields may stand in for each part of the
entry, and what they hold need not be of the kind that the part needs.

## Main definitions

* `LogEntry`: The entries.
* `LogEntry.Fault`: Why an entry is not written.
* `LogEntry.message`: The message of an entry.
* `LogEntry.record`: The record of an entry.
* `LogEntry.render`: An entry in a format.
-/

namespace TokenLint

/-- What is handed over to be logged. -/
structure LogEntry where
  /-- The name under which it is logged. -/
  logger : String
  /-- How much it matters. -/
  level : LogLevel
  /-- The template of its message. -/
  template : Payload
  /-- The arguments for the template. -/
  arguments : List Payload
  /-- The number of seconds from the start of 1970 up to it. -/
  seconds : Payload
  /-- The fields. -/
  fields : LogFields

namespace LogEntry

/-- Why an entry is not written. -/
inductive Fault where
  /-- There is no text for its instant. -/
  | instant (f : Instant.Fault)
  /-- Its template cannot be filled. -/
  | template (f : Template.Fault)
  /-- The name of its level is of such a kind and no text. -/
  | noWord (sort : String)
  /-- What it has to add for people is of such a kind and no text. -/
  | noText (sort : String)
deriving DecidableEq, Repr

/-- How the fault reads. -/
def Fault.message : Fault → String
  | instant f => f.message
  | template f => f.message
  | noWord sort => s!"'{sort}' object has no attribute 'lower'"
  | noText sort => s!"can only concatenate str (not \"{sort}\") to str"

/-- The arguments for the template, if there are any. -/
def given (e : LogEntry) : Option Template.Arguments :=
  match Ordered.get? "args" e.fields with
  | some x => if x.isVoid then none else some (.ofValue x)
  | none => if e.arguments.isEmpty then none else some (.ofList e.arguments)

/-- The message: the template, filled if there are arguments for it. -/
def message (e : LogEntry) : Except Template.Fault String :=
  let template := ((Ordered.get? "msg" e.fields).getD e.template).text
  match e.given with
  | some a => Template.fill template a
  | none => .ok template

/-- The record of an entry. -/
def record (e : LogEntry) : Except Template.Fault LogRecord :=
  e.message.map fun message => ⟨e.logger, e.level, message, e.fields⟩

/-- The instant of an entry in words. -/
def instant (e : LogEntry) : Except Instant.Fault String :=
  (Instant.ofPayload ((Ordered.get? "created" e.fields).getD e.seconds)).bind (·.text)

/-- The first value in a list that is no text, as a fault. -/
def unlessText (fault : String → Fault) (xs : List Payload) : Except Fault Unit :=
  match xs.find? (·.wording?.isNone) with
  | some x => .error (fault x.sort)
  | none => .ok ()

/-- An entry in a format. For people its instant is not written. -/
def render (e : LogEntry) : LogFormat → Except Fault String
  | .text => do
    let r ← e.record.mapError .template
    unlessText .noText r.notes
    return r.render .text ""
  | .json => do
    let instant ← e.instant.mapError .instant
    unlessText .noWord (Ordered.get? "levelname" e.fields).toList
    let r ← e.record.mapError .template
    return r.render .json instant

end LogEntry

end TokenLint
