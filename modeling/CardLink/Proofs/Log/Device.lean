import CardLink.Device.Session
import CardLink.Proofs.Device.Request
import CardLink.Proofs.Log
import CardLink.Proofs.Operation

/-!
Requests to a bare host and to a device make nothing of the logger: they offer the same records to each,
and go on in the same way.
-/

namespace CardLink

/-- What a program did, its log lines apart. -/
def Report.silent {α : Type} (report : Report α) : α × List Exchange :=
  (report.value, report.exchanges)

namespace DeviceSession

variable {σ : Type} (session : DeviceSession σ)

/-- What a session did, its log lines apart. -/
def silent :
    (Except DeviceError Unit × List Exchange) × List (Option DeviceAnswer × List Exchange) × Option σ :=
  (session.opening.silent, session.reports.map Report.silent, session.host)

/-- The log lines of opening the device, and of each request. -/
def lines : List (List LogLine) := session.opening.lines :: session.reports.map Report.lines

end DeviceSession

namespace Bus

variable {σ : Type} (model : HostModel σ)

/-- A program offers the same records to every logger, and does the same with each. -/
def OffersAlike {α : Type} (program : Bus α) : Prop :=
  ∀ host locked, ∃ value after held exchanges records, ∀ logger : Logger,
    program.run model ⟨host, locked, logger⟩ =
      ⟨value, ⟨after, held, (logger.offerAll records).2⟩, exchanges, (logger.offerAll records).1⟩

/-- Programs do so if their parts do. -/
theorem compositional_offersAlike : Compositional (OffersAlike model) where
  of_pure value host locked := ⟨value, host, locked, [], [], fun _ => rfl⟩
  of_request asked host locked := by
    let answered := model.answer asked host
    exact ⟨answered.1, answered.2, locked, [⟨asked, answered.1⟩], [], fun _ => rfl⟩
  of_log level message host locked := by
    -- Whether the program holds the record back or the logger does makes no difference.
    refine ⟨(), host, locked, [], [⟨level, message⟩], fun logger => ?_⟩
    rw [run_log, Logger.offerAll, Logger.offerAll, List.append_nil]
  bind first second host locked := by
    -- The second part meets the logger that the first one left.
    obtain ⟨value, between, kept, exchanges, records, ran⟩ := first host locked
    obtain ⟨result, after, held, others, more, followed⟩ := second value between kept
    refine ⟨result, after, held, exchanges ++ others, records ++ more, fun logger => ?_⟩
    rw [run_bind, ran]
    dsimp only
    rw [followed, Logger.offerAll_append]

/-- The attempt at the lock makes nothing of the logger. -/
theorem offersAlike_attemptLock : OffersAlike model attemptLock :=
  fun host locked => ⟨!locked, host, true, [], [], fun _ => rfl⟩

/-- Nor does its release. -/
theorem offersAlike_release : OffersAlike model release :=
  fun host _ => ⟨(), host, false, [], [], fun _ => rfl⟩

namespace Compositional

variable {holds : ∀ {α : Type}, Bus α → Prop} (composes : Compositional holds)

include composes

/-- Judging an I/O status leaves a record at most. -/
theorem of_acceptIoStatus (command : Command) (response : Response) :
    holds (acceptIoStatus command response).run := by
  unfold acceptIoStatus
  dsimp only
  split
  · exact composes.bind_except (composes.lift (composes.of_log _ _)) fun _ => composes.of_pure _
  · exact composes.of_pure _

theorem of_accessRegister (access : DirectAccess) : holds (accessRegister access).run := by
  have issued : holds ((issue (.ioDirect access)).adapt DeviceError.bus).run :=
    composes.map (composes.of_issue _) _
  apply composes.bind_except issued
  intro response
  exact composes.bind_except (composes.of_acceptIoStatus _ _) fun _ => composes.of_pure _

theorem of_moveExtended (access : ExtendedAccess) (data : DataPhase) :
    holds (moveExtended access data) := by
  apply composes.bind (composes.of_execute _)
  intro reply
  split
  · exact composes.of_pure _
  · exact composes.bind (composes.of_acceptIoStatus _ _) fun _ => composes.of_pure _

theorem of_moveChunks (request : BlockRequest) (mode : ExtendedMode) (chunks : List Bytes)
    (address : UInt32) : holds (moveChunks request mode chunks address) := by
  -- The next chunk follows one that was moved.
  induction chunks generalizing address with
  | nil => exact composes.of_pure _
  | cons chunk rest ih =>
    apply composes.bind (composes.of_moveExtended _ _)
    intro first
    split
    · exact composes.of_pure _
    · exact composes.bind (ih _) fun _ => composes.of_pure _

theorem of_moveAccepted (config : DeviceConfig) (request : BlockRequest) (blockCount : UInt32)
    (bytes : Bytes) : holds (moveAccepted config request blockCount bytes) := by
  unfold moveAccepted
  dsimp only
  split
  · exact composes.of_moveChunks _ _ _ _
  · exact composes.of_moveExtended _ _

theorem of_moveLaidOut (config : DeviceConfig) (request : BlockRequest) (lengths : List Nat)
    (memory : Bytes) : holds (moveLaidOut config request lengths memory) := by
  unfold moveLaidOut
  split
  · exact composes.of_pure _
  · split
    · exact composes.of_pure _
    · exact composes.of_moveExtended _ _

end Compositional

end Bus

section Device

open Bus

variable {σ : Type} (model : HostModel σ) (config : DeviceConfig)

/-- Opening a device makes nothing of the logger. -/
theorem offersAlike_openDevice : OffersAlike model openDevice.run := by
  have composes := compositional_offersAlike model
  refine composes.bind_except (composes.lift (composes.of_request _)) fun result => ?_
  split
  · exact composes.of_pure _
  · exact composes.bind_except (composes.lift (composes.of_log _ _)) fun _ => composes.of_pure _

/-- A caller that gives up on the lock leaves a record, which is the same for every logger. -/
theorem offersAlike_acquire (policy : LockPolicy) : OffersAlike model (acquire policy).run := by
  have composes := compositional_offersAlike model
  refine composes.bind_except (composes.lift (offersAlike_attemptLock model)) fun free => ?_
  split
  · exact composes.of_pure _
  · cases policy with
    | waitForever => exact composes.of_pure _
    | giveUpAfter attempts positive =>
      exact composes.bind_except (composes.lift (composes.of_log _ _)) fun _ => composes.of_pure _

theorem offersAlike_locking {α : Type} (refuse : DeviceError → α) {body : Bus α}
    (offers : OffersAlike model body) : OffersAlike model (locking config refuse body) := by
  have composes := compositional_offersAlike model
  apply composes.bind (offersAlike_acquire model config.lockPolicy)
  intro acquired
  split
  · exact composes.of_pure _
  · refine composes.bind offers fun _ => ?_
    exact composes.bind (offersAlike_release model) fun _ => composes.of_pure _

mutual

/-- A request to a device makes nothing of the logger, whatever it is. -/
theorem DeviceStep.offersAlike (step : DeviceStep) : OffersAlike model (step.program config) := by
  have composes := compositional_offersAlike model
  rw [step.program_eq]
  split
  · exact composes.of_pure _
  · apply offersAlike_locking
    cases step with
    | readRegister _ _ => exact composes.map (composes.of_accessRegister _) _
    | writeRegister _ _ _ => exact composes.map (composes.of_accessRegister _) _
    | writeReadRegister _ _ _ => exact composes.map (composes.of_accessRegister _) _
    | readBlocks _ _ _ _ _ => exact composes.map (composes.of_moveAccepted _ _ _ _) _
    | writeBlocks _ _ _ _ _ => exact composes.map (composes.of_moveAccepted _ _ _ _) _
    | readSpread _ _ _ _ => exact composes.map (composes.of_moveLaidOut _ _ _ _) _
    | writeSpread _ _ _ _ => exact composes.map (composes.of_moveLaidOut _ _ _ _) _
    | withBus steps _ _ => exact composes.map (offersAlike_innerSteps steps) _

/-- Nor do the steps of a program that holds the bus. -/
theorem offersAlike_innerSteps (steps : List InnerStep) :
    OffersAlike model (innerSteps config steps) := by
  have composes := compositional_offersAlike model
  cases steps with
  | nil => exact composes.of_pure _
  | cons step rest =>
    rw [innerSteps]
    apply composes.bind (InnerStep.offersAlike step)
    intro answered
    split
    · exact composes.of_pure _
    · split
      · exact composes.bind (offersAlike_innerSteps rest) fun _ => composes.of_pure _
      · exact composes.of_pure _

/-- Nor does one of them. -/
theorem InnerStep.offersAlike (step : InnerStep) : OffersAlike model (step.program config) := by
  have composes := compositional_offersAlike model
  cases step with
  | host step =>
    rw [InnerStep.program]
    exact composes.bind (composes.of_hostStep step) fun _ => composes.of_pure _
  | device step =>
    rw [InnerStep.program]
    exact composes.bind (DeviceStep.offersAlike step) fun _ => composes.of_pure _

end

/-- A series of programs that make nothing of the logger offers it the same records in each place. -/
theorem Bus.runAll_offers {α : Type} (programs : List (Bus α))
    (offers : ∀ program ∈ programs, OffersAlike model program) (host : σ) (locked : Bool) :
    ∃ acts parts after, ∀ logger : Logger,
      let ran := runAll model programs ⟨host, locked, logger⟩
      ran.1.map Report.silent = acts ∧ ran.1.map Report.lines = logger.offerParts parts
        ∧ ran.2.host = after := by
  induction programs generalizing host locked with
  | nil => exact ⟨[], [], host, fun _ => ⟨rfl, rfl, rfl⟩⟩
  | cons program rest ih =>
    -- The logger behind the first program is the one that the rest starts with.
    obtain ⟨here, others⟩ := List.forall_mem_cons.mp offers
    obtain ⟨value, between, kept, exchanges, records, first⟩ := here host locked
    obtain ⟨acts, parts, after, same⟩ := ih others between kept
    refine ⟨(value, exchanges) :: acts, records :: parts, after, fun logger => ?_⟩
    obtain ⟨silent, lines, host⟩ := same (logger.offerAll records).2
    simp only [runAll, first, List.map_cons, Report.silent, Logger.offerParts] at *
    exact ⟨congrArg _ silent, congrArg _ lines, host⟩

/-- So does a device that serves requests, up to one that is never answered. -/
theorem serveDevice_offers (steps : List DeviceStep) (host : σ) (locked : Bool) :
    ∃ acts parts after, ∀ logger : Logger,
      let served := serveDevice model config steps ⟨host, locked, logger⟩
      served.1.map Report.silent = acts ∧ served.1.map Report.lines = logger.offerParts parts
        ∧ served.2.map BusState.host = after := by
  induction steps generalizing host locked with
  | nil => exact ⟨[], [], some host, fun _ => ⟨rfl, rfl, rfl⟩⟩
  | cons step rest ih =>
    -- Whether a request is answered does not depend on the logger, either.
    obtain ⟨value, between, kept, exchanges, records, first⟩ := step.offersAlike model config host locked
    cases answered : value.returned with
    | true =>
      obtain ⟨acts, parts, after, same⟩ := ih between kept
      refine ⟨(some value, exchanges) :: acts, records :: parts, after, fun logger => ?_⟩
      obtain ⟨silent, lines, host⟩ := same (logger.offerAll records).2
      simp only [serveDevice, first, answered, if_true, List.map_cons, Report.silent,
        Logger.offerParts] at *
      exact ⟨congrArg _ silent, congrArg _ lines, host⟩
    | false =>
      refine ⟨[(none, exchanges)], [records], none, fun logger => ?_⟩
      simp only [serveDevice, first, answered, Bool.false_eq_true, if_false]
      exact ⟨rfl, rfl, rfl⟩

/-- So does a whole session, from the opening of the device on. -/
theorem runDevice_offers (steps : List DeviceStep) (host : σ) :
    ∃ act parts, ∀ logger : Logger,
      let session := runDevice model config steps host logger
      session.silent = act ∧ session.lines = logger.offerParts parts := by
  obtain ⟨value, between, kept, exchanges, records, opened⟩ := offersAlike_openDevice model host false
  cases value with
  | error cause =>
    -- A host that does not come up is asked for nothing else.
    refine ⟨((.error cause, exchanges), [], some between), [records], fun logger => ?_⟩
    simp only [runDevice, opened]
    exact ⟨rfl, rfl⟩
  | ok done =>
    obtain ⟨acts, parts, after, same⟩ := serveDevice_offers model config steps between kept
    refine ⟨((.ok (), exchanges), acts, after), records :: parts, fun logger => ?_⟩
    obtain ⟨silent, lines, host⟩ := same (logger.offerAll records).2
    simp only [runDevice, opened, DeviceSession.silent, DeviceSession.lines, silent, lines, host]
    exact ⟨rfl, rfl⟩

end Device

end CardLink
