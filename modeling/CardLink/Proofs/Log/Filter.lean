import CardLink.Proofs.Log.Device
import CardLink.Relay.Run

/-!
The log filter decides which records become lines and nothing else: requests to a host, a device or a
relay offer the same records to every logger, and go on in the same way.
-/

namespace CardLink

/-- What a request from outside did, its log lines apart. -/
def RelayReport.silent (report : RelayReport) : RelayAnswer × List RelayEvent × Relay :=
  (report.answer, report.events, report.relay)

namespace RelayRun

/-- The run with another log behind it. -/
def relog (run : RelayRun) (logger : Logger) (lines : List LogLine) : RelayRun :=
  { run with logger, lines }

section Relog

variable (run : RelayRun) (logger : Logger) (lines : List LogLine)

/-- A mask write does not look at the log. -/
theorem switch_relog (on : Bool) (continuation : RelayFrame) :
    (run.relog logger lines).switch on continuation =
      (run.switch on continuation).relog logger lines := by
  cases scripts : run.control <;> simp [switch, relog, scripts, push, see]

/-- A change of the slot does not look at the log. -/
theorem change_relog (content : Option Registration) :
    (run.relog logger lines).change content = (run.change content).relog logger lines := by
  rw [change, change]
  cases taken : run.relay.use.beginWrite? with
  | none => simp only [relog, taken]; rfl
  | some use =>
    simp only [relog, taken]
    exact switch_relog { run with relay := { run.relay with use } } logger lines false _

/-- A handler does not look at the log. -/
theorem callHandler_relog (registration : Registration) :
    (run.relog logger lines).callHandler registration =
      (run.callHandler registration).relog logger lines := by
  unfold callHandler
  simp only [relog]
  split <;> rfl

/-- A record goes to the log, and leaves the rest of the run as it is. -/
theorem note_relog (level : LogLevel) (message : String) :
    (run.relog logger lines).note level message =
      (run.note level message).relog (logger.offerAll [⟨level, message⟩]).2
        (lines ++ (logger.offerAll [⟨level, message⟩]).1) := by
  simp only [Logger.offerAll, List.append_nil]
  rfl

/-- A request does not look at the log. -/
theorem begin_relog (request : RelayRequest) :
    (run.relog logger lines).begin request = (run.begin request).relog logger lines := by
  cases request with
  | register registration => exact run.change_relog logger lines (some registration)
  | unregister => exact run.change_relog logger lines none
  | enable => exact run.switch_relog logger lines true .settle
  | disable => exact run.switch_relog logger lines false .settle
  | interrupt =>
    rw [begin, begin]
    cases armed : run.relay.armed with
    | true =>
      simp only [relog, armed]
      exact run.switch_relog logger lines false .deliver
    | false =>
      simp only [relog, armed]
      rfl
  | isEnabled => rfl

end Relog

/-- A stage that goes on offers the same records to every logger, and does the same with each. -/
theorem advance_offers (run : RelayRun) (frame : RelayFrame) :
    ∃ records, ∀ (logger : Logger) (lines : List LogLine),
      (run.relog logger lines).advance frame =
        (run.advance frame).relog (logger.offerAll records).2
          (lines ++ (logger.offerAll records).1) := by
  have quiet {next : RelayRun} {made : Logger → List LogLine → RelayRun}
      (same : ∀ logger lines, made logger lines = next.relog logger lines) :
      ∃ records, ∀ (logger : Logger) (lines : List LogLine),
        made logger lines = next.relog (logger.offerAll records).2
          (lines ++ (logger.offerAll records).1) :=
    ⟨[], fun logger lines => by rw [same, Logger.offerAll, List.append_nil]⟩
  have noted (changed : RelayRun) {level : LogLevel} {message : String} {answer : RelayAnswer}
      {made : Logger → List LogLine → RelayRun} (same : ∀ logger lines, made logger lines =
        ((changed.relog logger lines).note level message).reply answer) :
      ∃ records, ∀ (logger : Logger) (lines : List LogLine),
        made logger lines = ((changed.note level message).reply answer).relog
          (logger.offerAll records).2 (lines ++ (logger.offerAll records).1) :=
    ⟨[⟨level, message⟩], fun logger lines => by rw [same, note_relog]; rfl⟩
  cases frame with
  | start request => exact quiet fun logger lines => run.begin_relog logger lines request
  | script requests => cases requests <;> exact quiet fun _ _ => rfl
  | report request => exact quiet fun _ _ => rfl
  | install content =>
    cases content with
    | none => exact quiet fun _ _ => rfl
    | some registration =>
      -- A handler that was installed leaves a record.
      exact noted { run with relay := { run.relay with slot := some registration, use := .free } }
        fun _ _ => rfl
  | settle => exact quiet fun _ _ => rfl
  | deliver =>
    simp only [advance]
    cases read : run.relay.use.beginRead? with
    | none => exact quiet fun logger lines => by rw [hand, hand]; simp only [relog, read]; rfl
    | some use =>
      cases slot : run.relay.slot with
      | none =>
        -- An interrupt that finds the slot empty leaves a record.
        have lost (run : RelayRun) (read : run.relay.use.beginRead? = some use)
            (slot : run.relay.slot = none) : run.hand =
              (run.note .warn "SDIO: card interrupt with no handler registered").reply
                (.truth false) := by
          rw [hand, read, slot]
        rw [lost run read slot]
        exact noted run fun logger lines => lost (run.relog logger lines) read slot
      | some registration =>
        have called (run : RelayRun) (read : run.relay.use.beginRead? = some use)
            (slot : run.relay.slot = some registration) : run.hand =
              ({ run with relay := { run.relay with use } } : RelayRun).callHandler registration := by
          rw [hand, read, slot]
        refine quiet fun logger lines => ?_
        rw [called (run.relog logger lines) read slot, called run read slot]
        exact callHandler_relog { run with relay := { run.relay with use } } logger lines registration
  | handler registration => exact quiet fun _ _ => rfl

/-- So does a step. -/
theorem step_offers (run : RelayRun) :
    ∃ records, ∀ (logger : Logger) (lines : List LogLine),
      (run.relog logger lines).step =
        run.step.relog (logger.offerAll records).2 (lines ++ (logger.offerAll records).1) := by
  cases stages : run.stack with
  | nil =>
    refine ⟨[], fun logger lines => ?_⟩
    rw [step, step, Logger.offerAll, List.append_nil]
    simp only [relog, stages]
  | cons frame below =>
    obtain ⟨records, same⟩ := advance_offers { run with stack := below } frame
    refine ⟨records, fun logger lines => ?_⟩
    rw [step, step]
    simp only [relog, stages] at same ⊢
    exact same logger lines

/-- So do so many steps. -/
theorem steps_offers (run : RelayRun) (count : Nat) :
    ∃ records, ∀ (logger : Logger) (lines : List LogLine),
      (run.relog logger lines).steps count =
        (run.steps count).relog (logger.offerAll records).2
          (lines ++ (logger.offerAll records).1) := by
  induction count generalizing run with
  | zero => exact ⟨[], fun logger lines => by rw [Logger.offerAll, List.append_nil]; rfl⟩
  | succ count ih =>
    -- The records of the first step come before those of the other steps.
    obtain ⟨first, stepped⟩ := run.step_offers
    obtain ⟨others, later⟩ := ih run.step
    refine ⟨first ++ others, fun logger lines => ?_⟩
    rw [steps, stepped, later, Logger.offerAll_append, List.append_assoc]
    rfl

/-- Requests from outside offer the same records to every logger, each of them in its own place. -/
theorem performAll_offers (run : RelayRun) (requests : List RelayRequest) :
    ∃ acts parts, ∀ (logger : Logger) (lines : List LogLine),
      let ran := ((run.relog logger lines).performAll requests).1
      ran.map RelayReport.silent = acts ∧ ran.map RelayReport.lines = logger.offerParts parts := by
  induction requests generalizing run with
  | nil => exact ⟨[], [], fun _ _ => ⟨rfl, rfl⟩⟩
  | cons request rest ih =>
    obtain ⟨records, performed⟩ :=
      (run.push (.start request)).steps_offers (run.push (.start request)).work
    obtain ⟨acts, parts, others⟩ := ih (run.perform request)
    have next (logger : Logger) (lines : List LogLine) : (run.relog logger lines).perform request =
        (run.perform request).relog (logger.offerAll records).2
          (lines ++ (logger.offerAll records).1) := performed logger lines
    refine ⟨((run.perform request).answer, (run.perform request).events.drop run.events.length,
      (run.perform request).relay) :: acts, records :: parts, fun logger lines => ?_⟩
    obtain ⟨silent, parted⟩ := others (logger.offerAll records).2 (lines ++ (logger.offerAll records).1)
    simp only [performAll, next, List.map_cons, RelayReport.silent, Logger.offerParts]
    refine ⟨congrArg _ silent, ?_⟩
    -- The lines of a request are those behind the lines that were there before.
    rw [parted]
    simp [relog]

end RelayRun

/--
The log filter hides records and does nothing else, whatever the host, the configuration and the steps
are, and however far requests are nested.

With any two filters, all results, calls, buffers, mask writes and states are the same. The lines of each
step are those of the full log that the filter admits, in order, and the lines of the whole run are
numbered from zero on.
-/
theorem filter_only_hides {σ : Type} (model : HostModel σ) (host : σ) (width : LengthWidth)
    (filter other : LogFilter) :
    (∀ steps : List HostStep,
      let ran (filter : LogFilter) := Bus.runAll model (steps.map HostStep.program)
        { host, logger := { filter, width } }
      (ran filter).1.map Report.silent = (ran other).1.map Report.silent
        ∧ (ran filter).2.host = (ran other).2.host
        ∧ FilteredFrom filter width ((ran (.upTo .trace)).1.map Report.lines)
          ((ran filter).1.map Report.lines))
      ∧ (∀ (config : DeviceConfig) (steps : List DeviceStep),
        let ran (filter : LogFilter) := runDevice model config steps host { filter, width }
        (ran filter).silent = (ran other).silent
          ∧ FilteredFrom filter width (ran (.upTo .trace)).lines (ran filter).lines)
      ∧ ∀ (control : List (List RelayRequest)) (handlers : List (List (List RelayRequest)))
          (requests : List RelayRequest),
        let ran (filter : LogFilter) := (RelayRun.performAll
          { control, handlers, logger := { filter, width } } requests).1
        (ran filter).map RelayReport.silent = (ran other).map RelayReport.silent
          ∧ FilteredFrom filter width ((ran (.upTo .trace)).map RelayReport.lines)
            ((ran filter).map RelayReport.lines) := by
  refine ⟨?_, ?_, ?_⟩
  · intro steps ran
    have offers : ∀ program ∈ steps.map HostStep.program, Bus.OffersAlike model program := by
      intro program member
      obtain ⟨step, -, rfl⟩ := List.mem_map.mp member
      exact (Bus.compositional_offersAlike model).of_hostStep step
    obtain ⟨acts, parts, after, same⟩ := Bus.runAll_offers model _ offers host false
    have runs (filter : LogFilter) := same { filter, width }
    refine ⟨(runs filter).1.trans (runs other).1.symm, (runs filter).2.2.trans (runs other).2.2.symm, ?_⟩
    rw [(runs filter).2.1, (runs (.upTo .trace)).2.1]
    exact filteredFrom_offerParts filter width parts
  · intro config steps ran
    obtain ⟨act, parts, same⟩ := runDevice_offers model config steps host
    have runs (filter : LogFilter) := same { filter, width }
    refine ⟨(runs filter).1.trans (runs other).1.symm, ?_⟩
    rw [(runs filter).2, (runs (.upTo .trace)).2]
    exact filteredFrom_offerParts filter width parts
  · intro control handlers requests ran
    obtain ⟨acts, parts, same⟩ :=
      RelayRun.performAll_offers { control, handlers, logger := { filter := .off } } requests
    have runs (filter : LogFilter) := same { filter, width } []
    refine ⟨(runs filter).1.trans (runs other).1.symm, ?_⟩
    have full := (runs (.upTo .trace)).2
    have part := (runs filter).2
    simp only [RelayRun.relog] at full part
    rw [full, part]
    exact filteredFrom_offerParts filter width parts

end CardLink
