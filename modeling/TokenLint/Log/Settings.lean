import TokenLint.Log.Record
import TokenLint.Text.Blank

/-!
# Log settings

In which format log records are written and how much a record has to matter to be written at all. Both
may be asked for; if they are not, the environment is asked, and after that there is a default. A format
has to be one of the vocabulary, while a level that nobody knows counts as the one for information.

The settings are those of the program's own loggers. Of any other logger warnings and what matters more
are written, and nothing but what they say.

## Main definitions

* `LogSettings`: The settings.
* `LogRequest`: What is asked for.
* `LogSettings.select`: The settings that apply.
* `LogSettings.shows`: Whether a record is written.
* `LogSettings.line`: What is written of a record.
-/

namespace TokenLint

/-- Log settings. -/
structure LogSettings where
  /-- How records are written. -/
  format : LogFormat
  /-- The least number that the level of a record has to have. -/
  level : Int
  /-- The name of that level. -/
  levelName : String
deriving DecidableEq, Repr

/-- A level that is asked for. -/
inductive LevelRequest where
  /-- By its number. -/
  | number (n : Int)
  /-- By its word. -/
  | word (s : String)
deriving DecidableEq, Repr

/-- Log settings that are asked for, and those in the environment. -/
structure LogRequest where
  /-- The format. -/
  format : Option String
  /-- The level. -/
  level : Option LevelRequest
  /-- The format in the environment. -/
  environmentFormat : Option String
  /-- The level in the environment. -/
  environmentLevel : Option String
deriving DecidableEq, Repr

namespace LogSettings

/-- The variable of the environment that sets the format. -/
def formatVariable : String := "LEXCHECK_LOG_FORMAT"

/-- The variable of the environment that sets the level. -/
def levelVariable : String := "LEXCHECK_LOG_LEVEL"

/-- The words for levels that can be asked for. -/
def levelWords : List String := ["debug", "info", "warning", "error"]

/-- The name of the level of a number. -/
def nameOfNumber (n : Int) : String :=
  match LogLevel.all.find? (·.number = n) with
  | some level => level.word
  | none => if n = 0 then "notset" else s!"level {n}"

/-- The number and the name of a level that is asked for by its word. -/
def levelOfWord (s : String) : Int × String :=
  let word := Text.lower (Text.strip s)
  match LogLevel.all.find? fun level => level.word = word && level ≠ .critical with
  | some level => (level.number, level.word)
  | none => (LogLevel.info.number, LogLevel.info.word)

/-- The number and the name of a level that is asked for. -/
def levelOf : LevelRequest → Int × String
  | .number n => (n, nameOfNumber n)
  | .word s => levelOfWord s

/-- A variable of the environment, where an empty one is not set. -/
def nonEmpty (value : Option String) : Option String := value.filter (· ≠ "")

/-- The format that applies. -/
def selectFormat (r : LogRequest) : Except String LogFormat :=
  match r.format.or (nonEmpty r.environmentFormat) with
  | some word => Vocabulary.ofWord word
  | none => .ok .text

/-- The level that applies. -/
def selectLevel (r : LogRequest) : Int × String :=
  match r.level, nonEmpty r.environmentLevel with
  | some level, _ => levelOf level
  | none, some word => levelOfWord word
  | none, none => (LogLevel.warning.number, LogLevel.warning.word)

/-- The settings that apply, or the complaint about an unknown format. -/
def select (r : LogRequest) : Except String LogSettings := do
  let format ← selectFormat r
  let (level, levelName) := selectLevel r
  return ⟨format, level, levelName⟩

/-- The number that the level of a record has to reach. A level of zero leaves it to the default. -/
def threshold (s : LogSettings) : Int := if s.level = 0 then LogLevel.warning.number else s.level

/-- The name that the program's own loggers go by, the names of parts after it aside. -/
def ownLogger : String := "lexcheck"

/-- Whether a logger is one of the program's own. -/
def isOwn (logger : String) : Bool := logger = ownLogger || logger.startsWith (ownLogger ++ ".")

/-- Whether a record is written. -/
def shows (s : LogSettings) (r : LogRecord) : Bool :=
  (if isOwn r.logger then s.threshold else LogLevel.warning.number) ≤ r.level.number

/-- What is written of a record at an instant. -/
def line (s : LogSettings) (r : LogRecord) (instant : String) : String :=
  if isOwn r.logger then r.render s.format instant else r.message

end LogSettings

end TokenLint
