import CardLink.Log.Session

/-!
The log of a whole program: a front that holds the filter, a backend behind it that numbers the
lines, and the console that the backend writes them to.
-/

namespace CardLink

/-- The log of a program; consoles are told apart by numbers. -/
structure LogSystem where
  /-- The console that lines go to: the first one that was given. -/
  console : Option Nat := none
  /-- The front hands records on to the backend. -/
  installed : Bool := false
  /-- The filter in force and the number of the next line. -/
  logger : Logger := { filter := .off }
  deriving DecidableEq

namespace LogSystem

/-- Installs the backend with a console and a filter. -/
def install (system : LogSystem) (console : Nat) (filter : LogFilter) :
    Except InstallError Unit × LogSystem :=
  -- The console comes first: it is kept unless another one was, whatever the front says then.
  let kept := { system with console := system.console.or (some console) }
  if kept.installed then (.error .alreadyInstalled, kept)
  else (.ok (), { kept with installed := true, logger := { kept.logger with filter } })

/-- The backend: a record that the filter permits becomes a line on the console. -/
def emit (system : LogSystem) (record : LogRecord) : List (Nat × LogLine) × LogSystem :=
  match system.console with
  -- Without a console, no number is used up.
  | none => ([], system)
  | some console =>
    let offered := system.logger.offer record
    (offered.1.toList.map (console, ·), { system with logger := offered.2 })

/-- The front: asks for the level of a record before the backend does so again. -/
def write (system : LogSystem) (record : LogRecord) : List (Nat × LogLine) × LogSystem :=
  if system.installed && system.logger.filter.permits record.level then system.emit record
  else ([], system)

/-- Serves a request of a client with a console of its own, which only an installation offers. -/
def serve (system : LogSystem) (console : Nat) :
    LogRequest → LogAnswer × List (Nat × LogLine) × LogSystem
  | .setFilter filter => (.done, [], { system with logger := { system.logger with filter } })
  | .getFilter => (.filter system.logger.filter, [], system)
  | .install filter =>
    match system.install console filter with
    | (.ok (), after) => (.done, [], after)
    | (.error cause, after) => (.refused cause, [], after)
  | .write record => (.done, system.write record)
  | .direct record => (.done, system.emit record)
  | .enabled level => (.enabled (system.logger.filter.permits level), [], system)
  | .flush => (.done, [], system)

/-- Serves clients in order: each answer with its lines, and the log at the end. -/
def serveAll (system : LogSystem) :
    List (Nat × LogRequest) → List (LogAnswer × List (Nat × LogLine)) × LogSystem
  | [] => ([], system)
  | (console, request) :: rest =>
    let first := system.serve console request
    let others := first.2.2.serveAll rest
    ((first.1, first.2.1) :: others.1, others.2)

end LogSystem

end CardLink
