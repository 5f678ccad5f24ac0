import CardLink.Log

/-! What a client asks of an installed logger, one request after another. -/

namespace CardLink

/-- A request to the logger. -/
inductive LogRequest where
  /-- Changes the filter. -/
  | setFilter (filter : LogFilter)
  /-- Reads the filter. -/
  | getFilter
  /-- Installs another logger with a filter of its own. -/
  | install (filter : LogFilter)
  /-- Offers a record through the front of the log. -/
  | write (record : LogRecord)
  /-- Offers a record to the logger itself, past the front. -/
  | direct (record : LogRecord)
  /-- Asks whether a record of this level would become a line. -/
  | enabled (level : LogLevel)
  /-- Asks for pending lines to be written out; none is ever pending. -/
  | flush
  deriving DecidableEq

/-- The answer to a request. -/
inductive LogAnswer where
  | done
  | filter (filter : LogFilter)
  | refused (cause : InstallError)
  | enabled (answer : Bool)
  deriving DecidableEq

/-- Serves one request: the answer, the lines that it wrote, and the logger after it. -/
def Logger.serve (logger : Logger) : LogRequest → LogAnswer × List LogLine × Logger
  | .setFilter filter => (.done, [], { logger with filter })
  | .getFilter => (.filter logger.filter, [], logger)
  -- The first logger stays for good, together with its filter.
  | .install _ => (.refused .alreadyInstalled, [], logger)
  -- A record becomes the same line on both ways.
  | .write record | .direct record =>
    let (line, after) := logger.offer record
    (.done, line.toList, after)
  | .enabled level => (.enabled (logger.filter.permits level), [], logger)
  | .flush => (.done, [], logger)

/-- Serves requests in order: each answer with its lines, and the logger at the end. -/
def Logger.serveAll (logger : Logger) : List LogRequest → List (LogAnswer × List LogLine) × Logger
  | [] => ([], logger)
  | request :: rest =>
    let (answer, lines, next) := logger.serve request
    let (answers, final) := next.serveAll rest
    ((answer, lines) :: answers, final)

end CardLink
