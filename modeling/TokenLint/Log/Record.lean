import TokenLint.Data.Conversion
import TokenLint.Ordered
import TokenLint.Text.Lower

/-!
# Log records

A log record says which part of the program has something to say, how much it matters, and what it is;
fields for programs may be added. For people a record is a line, for programs a JSON object. Some fields
stand in for parts of the record itself, and some are written below the line for people.

## Main definitions

* `LogLevel`: How much a record matters.
* `LogFields`: The fields of a record.
* `LogFields.structured`: Fields from values of any kind.
* `LogRecord`: The records.
* `LogRecord.part`: A part of a record, for which a field may stand in.
* `LogRecord.render`: A record in a format.
-/

namespace TokenLint

/-- How much a record matters. -/
inductive LogLevel where
  /-- It helps to find faults in the program. -/
  | debug
  /-- It tells how the run goes on. -/
  | info
  /-- Something needs attention. -/
  | warning
  /-- Something failed. -/
  | error
  /-- The run cannot go on. -/
  | critical
deriving DecidableEq, Repr

namespace LogLevel

/-- All levels. -/
def all : List LogLevel := [debug, info, warning, error, critical]

/-- The word for a level. -/
def word : LogLevel → String
  | debug => "debug"
  | info => "info"
  | warning => "warning"
  | error => "error"
  | critical => "critical"

/-- The number of a level. -/
def number : LogLevel → Int
  | debug => 10
  | info => 20
  | warning => 30
  | error => 40
  | critical => 50

/-- The level that a word stands for. -/
def ofWord? (word : String) : Option LogLevel := all.find? (·.word = word)

end LogLevel

/-- The fields of a record by name. -/
abbrev LogFields := List (String × Payload)

namespace LogFields

/-- The names of the fields, in the order in which they are written. -/
def names : List String :=
  ["component", "path", "rule", "duration_ms", "counts", "exit_code", "details"]

/-- The field of a name, converted, if it is given and is not null. -/
def converted (given : LogFields) (name : String)
    (convert : Payload → Except ConversionFault Payload) : Except ConversionFault LogFields :=
  match Ordered.get? name given with
  | none | some .null => .ok []
  | some value => (convert value).map fun p => [(name, p)]

/-- The field of a name if it is a map and has entries. -/
def mapField (given : LogFields) (name : String) : LogFields :=
  match Ordered.get? name given with
  | some (.map (e :: es)) => [(name, .map (e :: es))]
  | _ => []

/-- The fields of a record from a part of the program, of which each has to be of its kind or easily
made so. Fields of other names are left out. -/
def structured (component : LogComponent) (given : LogFields) : Except ConversionFault LogFields := do
  let path ← converted given "path" fun p => p.asPathText.map .string
  let rule ← converted given "rule" fun p => .ok (.string p.text)
  let duration ← converted given "duration_ms" fun p => p.asDecimal.map .number
  let exitCode ← converted given "exit_code" fun p => p.asWhole.map .int
  return ("component", .symbol (.logComponent component)) :: path ++ rule ++ duration ++
    mapField given "counts" ++ exitCode ++ mapField given "details"

end LogFields

/-- A log record. -/
structure LogRecord where
  /-- The name under which it is logged. -/
  logger : String
  /-- How much it matters. -/
  level : LogLevel
  /-- What it says. -/
  message : String
  /-- The fields for programs. -/
  fields : LogFields

namespace LogRecord

/-- A part of a record. A field of its name stands in for it. -/
def part (r : LogRecord) (name : String) (own : Payload) : Payload := (Ordered.get? name r.fields).getD own

/-- The name of the level for people. -/
def levelName (r : LogRecord) : Payload :=
  r.part "levelname" (.string (r.level.word.map Char.toUpper))

/-- The name of the level for programs. -/
def levelWord (r : LogRecord) : String :=
  ((Ordered.get? "levelname" r.fields).map fun x => Text.lower x.text).getD r.level.word

/-- What fields have to add for people, below the message. -/
def notes (r : LogRecord) : List Payload :=
  [r.part "exc_text" .null, r.part "stack_info" .null].filter fun x => !x.isVoid

/-- A text with another one below it. -/
def below (s more : String) : String :=
  if s.toList.getLast? = some '\n' then s ++ more else s ++ "\n" ++ more

/-- A record for programs, at an instant. -/
def payload (r : LogRecord) (instant : String) : Payload :=
  .map ([(.string "timestamp", .string instant), (.string "level", .string r.levelWord),
    (.string "message", .string r.message), (.string "logger", r.part "name" (.string r.logger))] ++
    LogFields.names.filterMap fun name =>
      (Ordered.get? name r.fields).map fun value => (.string name, value))

/-- A record in a format, at an instant. -/
def render (r : LogRecord) (format : LogFormat) (instant : String) : String :=
  match format with
  | .text => (r.notes.map (·.text)).foldl below s!"[{r.levelName.text}] {r.message}"
  | .json => (r.payload instant).dump none

end LogRecord

end TokenLint
