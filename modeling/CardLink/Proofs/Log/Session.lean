import CardLink.Log.System
import CardLink.Proofs.Log
import CardLink.Proofs.Log.Text

/-!
A log over any run of requests: the first console gets the records that the filter in force admits,
in order and numbered from zero on, and nothing that clients do later changes that.
-/

namespace CardLink

namespace LogRequest

/-- The filter that a request brings in. -/
def newFilter? : LogRequest → Option LogFilter
  | .setFilter filter => some filter
  | _ => none

/-- The record that a request offers, by either way. -/
def record? : LogRequest → Option LogRecord
  | .write record | .direct record => some record
  | _ => none

end LogRequest

namespace LogFilter

/-- The filter in force after requests: the last one that was set, or else the one at the start. -/
def after (filter : LogFilter) (requests : List LogRequest) : LogFilter :=
  (requests.filterMap LogRequest.newFilter?).getLast?.getD filter

/-- The record that the request at a place offers, if the filter in force there admits it. -/
def permitted? (filter : LogFilter) (requests : List LogRequest) (place : Nat) : Option LogRecord :=
  (requests[place]?.bind LogRequest.record?).filter fun record =>
    (filter.after (requests.take place)).Admits record.level

/-- All the records that are admitted where they are offered, in order. -/
def permitted (filter : LogFilter) (requests : List LogRequest) : List LogRecord :=
  (List.range requests.length).filterMap (filter.permitted? requests)

/-- A request puts its own filter in force for those behind it. -/
theorem after_cons (filter : LogFilter) (request : LogRequest) (rest : List LogRequest) :
    filter.after (request :: rest) = (request.newFilter?.getD filter).after rest := by
  cases brought : request.newFilter? with
  | none => simp [after, brought]
  | some other =>
    simp only [after, List.filterMap_cons, brought, Option.getD_some]
    rw [List.getLast?_cons, Option.getD_some]

/-- The first request is judged by the filter at the start, the others by what it leaves. -/
theorem permitted_cons (filter : LogFilter) (request : LogRequest) (rest : List LogRequest) :
    filter.permitted (request :: rest) =
      (request.record?.filter fun record => filter.Admits record.level).toList
        ++ (request.newFilter?.getD filter).permitted rest := by
  have first : filter.permitted? (request :: rest) 0 =
      request.record?.filter fun record => filter.Admits record.level := rfl
  have others (place : Nat) : filter.permitted? (request :: rest) (place + 1) =
      (request.newFilter?.getD filter).permitted? rest place := by
    simp only [permitted?, List.getElem?_cons_succ, List.take_succ_cons, after_cons]
  rw [permitted, List.length_cons, List.range_succ_eq_map, List.filterMap_cons, first,
    List.filterMap_map, permitted]
  simp only [Function.comp_def, others]
  cases request.record?.filter fun record => filter.Admits record.level <;> rfl

end LogFilter

namespace Logger

variable (logger : Logger)

/-- A request with a new filter puts it in force, and no other request does. -/
theorem filter_serve (request : LogRequest) :
    (logger.serve request).2.2.filter = request.newFilter?.getD logger.filter := by
  cases request <;> simp [serve, LogRequest.newFilter?]

/-- No request changes the width of the counter. -/
theorem width_serve (request : LogRequest) : (logger.serve request).2.2.width = logger.width := by
  cases request <;> simp [serve]

/-- A request becomes the line of its record, if the filter lets it through, and uses up its number. -/
theorem lines_serve (request : LogRequest) :
    (logger.serve request).2.1 = (logger.offerAll request.record?.toList).1
      ∧ (logger.serve request).2.2.next.toNat =
        (logger.offerAll request.record?.toList).2.next.toNat := by
  cases request <;> simp [serve, LogRequest.record?, offerAll]

/-- The lines that requests wrote, in order. -/
def linesOf (requests : List LogRequest) : List LogLine :=
  (logger.serveAll requests).1.flatMap (·.2)

theorem linesOf_cons (request : LogRequest) (rest : List LogRequest) :
    logger.linesOf (request :: rest) =
      (logger.serve request).2.1 ++ (logger.serve request).2.2.linesOf rest :=
  List.flatMap_cons

/-- The filter in force after requests is the last one that was set. -/
theorem filter_serveAll (requests : List LogRequest) :
    (logger.serveAll requests).2.filter = logger.filter.after requests := by
  induction requests generalizing logger with
  | nil => rfl
  | cons request rest ih => rw [serveAll, ih, filter_serve, LogFilter.after_cons]

/-- The lines are made of the records that are admitted where they are offered. -/
theorem record_linesOf (requests : List LogRequest) :
    (logger.linesOf requests).map LogLine.record = logger.filter.permitted requests := by
  induction requests generalizing logger with
  | nil => rfl
  | cons request rest ih =>
    have first : (logger.serve request).2.1.map LogLine.record =
        (request.record?.filter fun record => logger.filter.Admits record.level).toList := by
      rw [(logger.lines_serve request).1, record_offerAll, LogFilter.select]
      cases request.record? with
      | none => rfl
      | some record =>
        by_cases admitted : logger.filter.Admits record.level <;>
          simp [admitted, Option.filter_some]
    rw [linesOf_cons, List.map_append, first, ih, filter_serve, LogFilter.permitted_cons]

/-- The lines are numbered from the next number of the logger on. -/
theorem number_linesOf (requests : List LogRequest) :
    let lines := logger.linesOf requests
    lines.map LogLine.number = logger.numbers lines.length
      ∧ (logger.serveAll requests).2.next.toNat =
        (logger.next.toNat + lines.length) % 2 ^ logger.width.bits := by
  induction requests generalizing logger with
  | nil => exact ⟨rfl, (Nat.mod_eq_of_lt logger.next.isLt).symm⟩
  | cons request rest ih =>
    -- The lines of the first request end where those of the others start.
    obtain ⟨lines, served⟩ := logger.lines_serve request
    obtain ⟨first, between⟩ := logger.number_offerAll request.record?.toList
    obtain ⟨others, last⟩ := ih (logger.serve request).2.2
    rw [← lines] at first between
    rw [← served] at between
    rw [between, width_serve, Nat.mod_add_mod, Nat.add_assoc] at last
    simp only [linesOf_cons, List.map_append, List.length_append]
    refine ⟨?_, last⟩
    rw [first, others, logger.numbers_add (logger.width_serve request) between]

end Logger

namespace LogSystem

/-- Clients are served one after another, each from where the ones before it left the log. -/
theorem serveAll_append (system : LogSystem) (first second : List (Nat × LogRequest)) :
    system.serveAll (first ++ second) =
      ((system.serveAll first).1 ++ ((system.serveAll first).2.serveAll second).1,
        ((system.serveAll first).2.serveAll second).2) := by
  induction first generalizing system with
  | nil => rfl
  | cons asked rest ih => simp only [List.cons_append, serveAll, ih]

section Opened

variable (first : Nat) (logger : Logger)

/-- The log of a program whose backend was installed with a console. -/
def opened : LogSystem where
  console := some first
  installed := true
  logger := logger

/-- The backend of an installed log writes what its logger makes of a record. -/
theorem emit_opened (record : LogRecord) :
    (opened first logger).emit record =
      ((logger.offer record).1.toList.map (first, ·), opened first (logger.offer record).2) :=
  rfl

/-- The front only asks what the backend asks again. -/
theorem write_opened (record : LogRecord) :
    (opened first logger).write record = (opened first logger).emit record := by
  cases permitted : logger.filter.permits record.level with
  | true => simp [write, opened, permitted]
  | false => simp [write, opened, permitted, emit, Logger.offer]

/-- An installed log serves its clients as its logger does, and writes to its one console. -/
theorem serve_opened (client : Nat) (request : LogRequest) :
    (opened first logger).serve client request =
      ((logger.serve request).1, (logger.serve request).2.1.map (first, ·),
        opened first (logger.serve request).2.2) := by
  cases request with
  | write record =>
    rw [serve, write_opened, emit_opened]
    rfl
  | direct record =>
    rw [serve, emit_opened]
    rfl
  | _ => rfl

/-- So it does over a run. -/
theorem serveAll_opened (requests : List (Nat × LogRequest)) :
    (opened first logger).serveAll requests =
      ((logger.serveAll (requests.map (·.2))).1.map fun served => (served.1, served.2.map (first, ·)),
        opened first (logger.serveAll (requests.map (·.2))).2) := by
  induction requests generalizing logger with
  | nil => rfl
  | cons asked rest ih =>
    simp only [serveAll, serve_opened, ih, List.map_cons, Logger.serveAll]

/-- The lines of a run are those of the logger, all of them on the one console. -/
theorem written_opened (requests : List (Nat × LogRequest)) :
    ((opened first logger).serveAll requests).1.flatMap (·.2) =
      (logger.linesOf (requests.map (·.2))).map (first, ·) := by
  rw [serveAll_opened, Logger.linesOf, List.map_flatMap, List.flatMap_map]

/-- A level is enabled exactly if its records become lines, whichever way they are offered. -/
theorem enabled_opened (client : Nat) (level : LogLevel) (message : String) :
    let admitted := logger.filter.Admits level
    let next := if admitted then [(first, ⟨logger.next.toNat, level, message⟩)] else []
    (opened first logger).serve client (.enabled level) =
        (.enabled (decide admitted), [], opened first logger)
      ∧ ((opened first logger).serve client (.write ⟨level, message⟩)).2.1 = next
      ∧ ((opened first logger).serve client (.direct ⟨level, message⟩)).2.1 = next := by
  intro admitted next
  have line : (logger.offer ⟨level, message⟩).1.toList.map (first, ·) = next := by
    rw [Logger.offer, LogFilter.permits_eq]
    by_cases admits : logger.filter.Admits level
    · simp [next, admitted, admits]
    · simp [next, admitted, admits]
  refine ⟨?_, by rw [serve_opened]; exact line, by rw [serve_opened]; exact line⟩
  rw [serve_opened, Logger.serve, LogFilter.permits_eq]
  rfl

end Opened

end LogSystem

/--
A log over any run of requests, from its first installation on.

The first console gets one line for each record that the filter in force admits where it is offered,
whichever way it is offered, in order and numbered from zero on; another installation is refused and
changes nothing. A level is enabled exactly if a record of that level would become the next line. The
text of a line tells its number, its level and its message.
-/
theorem log_numbers_permitted (width : LengthWidth) (first : Nat) (filter : LogFilter)
    (requests : List (Nat × LogRequest)) :
    let installed := ({ logger := { filter := .off, width } } : LogSystem).install first filter
    let ran := installed.2.serveAll requests
    let written := ran.1.flatMap (·.2)
    let asked := requests.map (·.2)
    installed.1 = .ok ()
      ∧ (∀ later, installed.2.serveAll (requests ++ later) =
        (ran.1 ++ (ran.2.serveAll later).1, (ran.2.serveAll later).2))
      ∧ ran.2.logger.filter = filter.after asked
      ∧ written.map (·.2.record) = filter.permitted asked
      ∧ NumberedFromZero width (written.map (·.2))
      ∧ (∀ line ∈ written, line.1 = first)
      ∧ (∀ client other, ran.2.serve client (.install other) =
        (.refused .alreadyInstalled, [], ran.2))
      ∧ (∀ client level message,
        let admitted := (filter.after asked).Admits level
        let next :=
          if admitted then [(first, ⟨written.length % 2 ^ width.bits, level, message⟩)] else []
        ran.2.serve client (.enabled level) = (.enabled (decide admitted), [], ran.2)
          ∧ (ran.2.serve client (.write ⟨level, message⟩)).2.1 = next
          ∧ (ran.2.serve client (.direct ⟨level, message⟩)).2.1 = next)
      ∧ (∀ line other : LogLine, line.text = other.text → line = other) := by
  intro installed ran written asked
  let logger : Logger := { filter, width }
  have ran_eq : ran.2 = LogSystem.opened first (logger.serveAll asked).2 :=
    congrArg Prod.snd (LogSystem.serveAll_opened first logger requests)
  have written_eq : written = (logger.linesOf asked).map (first, ·) :=
    LogSystem.written_opened first logger requests
  have lines_eq : written.map (·.2) = logger.linesOf asked := by
    rw [written_eq, List.map_map]
    exact List.map_id _
  have inForce : (logger.serveAll asked).2.filter = filter.after asked :=
    logger.filter_serveAll asked
  obtain ⟨numbers, next⟩ := logger.number_linesOf asked
  refine ⟨rfl, fun later => LogSystem.serveAll_append _ requests later, ?_, ?_, ?_, ?_, ?_, ?_,
    fun _ _ => LogLine.eq_of_text_eq⟩
  · rw [ran_eq]
    exact inForce
  · rw [written_eq, List.map_map]
    exact logger.record_linesOf asked
  · rw [lines_eq]
    exact .of_numbers rfl numbers
  · rw [written_eq]
    intro line member
    obtain ⟨one, -, rfl⟩ := List.mem_map.mp member
    rfl
  · intro client other
    rw [ran_eq]
    rfl
  · intro client level message
    -- The next line is numbered with the count of the lines before it.
    have place : (logger.serveAll asked).2.next.toNat = written.length % 2 ^ width.bits := by
      rw [next, written_eq, List.length_map]
      exact congrArg (· % _) (Nat.zero_add _)
    rw [ran_eq, ← place, ← inForce]
    exact LogSystem.enabled_opened first _ client level message

end CardLink
