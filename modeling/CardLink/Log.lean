import CardLink.Text.Number
import CardLink.Word

/-! The log: records with a level, a filter on the level, and numbered lines for what passes it. -/

namespace CardLink

/-- How severe a record is. -/
inductive LogLevel where
  | error
  | warn
  | info
  | debug
  | trace
  deriving DecidableEq

/-- The place of a level, the most severe first. -/
def LogLevel.rank : LogLevel → Nat
  | .error => 1
  | .warn => 2
  | .info => 3
  | .debug => 4
  | .trace => 5

/-- The label of a level, five characters wide. -/
def LogLevel.label : LogLevel → String
  | .error => "ERROR"
  | .warn => "WARN "
  | .info => "INFO "
  | .debug => "DEBUG"
  | .trace => "TRACE"

/-- Which records are let through. -/
inductive LogFilter where
  /-- None. -/
  | off
  /-- Those of a level and of every more severe one. -/
  | upTo (level : LogLevel)
  deriving DecidableEq

/-- A filter lets a level through. -/
def LogFilter.permits : LogFilter → LogLevel → Bool
  | .off, _ => false
  | .upTo limit, level => level.rank ≤ limit.rank

/-- Something worth a line in the log. -/
structure LogRecord where
  /-- How severe it is. -/
  level : LogLevel
  /-- What happened. -/
  message : String
  deriving DecidableEq

/-- A record that was let through, with a number that tells its place in the sequence of lines. -/
structure LogLine where
  /-- What the counter of the logger was before it. -/
  number : Nat
  /-- The level of the record. -/
  level : LogLevel
  /-- The message of the record. -/
  message : String
  deriving DecidableEq

/-- The text of a line: its number in a column of ten, its level, its message. -/
def LogLine.text (line : LogLine) : String :=
  "[" ++ decimalColumn 10 line.number ++ "] [" ++ line.level.label ++ "] " ++ line.message

/-- The filter in force and the counter of the lines. -/
structure Logger where
  /-- The filter in force. -/
  filter : LogFilter
  /-- The width of the counter. -/
  width : LengthWidth := .bits64
  /-- The number of the next line. -/
  next : LengthWord width := 0
  deriving DecidableEq

/-- Offers a record: the line it becomes, if the filter permits it, and the logger after it. -/
def Logger.offer (logger : Logger) (record : LogRecord) : Option LogLine × Logger :=
  -- Only a line that is let through uses up a number, and behind the greatest one comes zero again.
  if logger.filter.permits record.level then
    (some ⟨logger.next.toNat, record.level, record.message⟩, { logger with next := logger.next + 1 })
  else (none, logger)

/-- Why a logger could not be installed. -/
inductive InstallError where
  /-- Another logger was installed before. -/
  | alreadyInstalled
  deriving DecidableEq

/-- The wording of a failed installation. -/
def InstallError.message : InstallError → String
  | .alreadyInstalled =>
    "attempted to set a logger after the logging system was already initialized"

end CardLink
