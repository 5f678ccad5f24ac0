import CardLink.Device.Session
import CardLink.Proofs.Device.Held

/-!
A device whose lock gives up answers every request, so that a session with it is a series of programs.
One whose lock waits for ever answers all of them but those that wait for themselves.
-/

namespace CardLink

/-- The answers to the steps that ran while the bus was held. -/
def DeviceAnswer.answers : DeviceAnswer → List InnerAnswer
  | bus _ answers => answers
  | value _ | finished _ | buffer _ _ | buffers _ _ => []

/-- A result reaches its caller unless the caller waits for itself. -/
theorem resultReturned_iff {α : Type} (result : Except DeviceError α) :
    resultReturned result = true ↔ result ≠ .error .selfBlocked := by
  cases result with
  | ok value => simp [resultReturned]
  | error cause => cases cause <;> simp [resultReturned]

/-- An answer reaches its caller if its result does, and all the answers within it reach theirs. -/
theorem DeviceAnswer.returned_iff (answer : DeviceAnswer) :
    answer.returned = true ↔
      answer.failure? ≠ some .selfBlocked ∧ allReturned answer.answers = true := by
  cases answer with
  | bus result inner =>
    have told : (bus result inner).failure? = some .selfBlocked ↔ result = .error .selfBlocked := by
      cases result <;> simp [failure?]
    simp [returned, answers, resultReturned_iff, told]
  | _ => simp [returned, answers, allReturned, resultReturned_iff]

section Answered

variable {σ : Type} (model : HostModel σ) {state : BusState σ} (config : DeviceConfig)

/-- A caller that holds the bus itself gets its answer all the same, if the lock gives up. -/
theorem returned_program_held {attempts : UInt32} {positive : 0 < attempts}
    (bounded : config.lockPolicy = .giveUpAfter attempts positive) (step : DeviceStep)
    (held : state.locked = true) :
    let ran := (step.program config).run model state
    ran.value.returned = true ∧ ran.state.locked = true := by
  simp only [DeviceStep.program_eq]
  cases checked : step.precheck config with
  | error cause =>
    -- The checks find fault with the request, and wait for nothing.
    have fault := step.inRequest_of_precheck config checked
    refine ⟨step.returned_refused ?_, held⟩
    rintro rfl
    cases fault
  | ok done =>
    obtain ⟨value, -, locked, -⟩ :=
      run_locking_held model config (fun cause => step.refused cause) (step.body config) held
    refine ⟨?_, locked⟩
    rw [value, bounded]
    exact step.returned_refused DeviceError.noConfusion

/-- So do all steps of a program that holds the bus. -/
theorem allReturned_innerSteps_held {attempts : UInt32} {positive : 0 < attempts}
    (bounded : config.lockPolicy = .giveUpAfter attempts positive) (steps : List InnerStep)
    (held : state.locked = true) :
    allReturned ((innerSteps config steps).run model state).value.2 = true := by
  -- The lock stays held along the steps.
  induction steps generalizing state with
  | nil => rfl
  | cons step rest ih =>
    cases step with
    | host step =>
      have locked := ((Bus.compositional_leavesLock model).of_hostStep step state state rfl).2
      rw [run_innerSteps_host]
      dsimp only
      cases (step.program.run model state).value.failure? with
      | some cause => rfl
      | none => exact ih (locked.trans held)
    | device step =>
      obtain ⟨answered, locked⟩ := returned_program_held model config bounded step held
      rw [run_innerSteps_device model config step rest state answered]
      exact Bool.and_eq_true_iff.mpr ⟨answered, ih locked⟩

/-- The answers to steps in between are those of the program that held the bus. -/
theorem allReturned_body {attempts : UInt32} {positive : 0 < attempts}
    (bounded : config.lockPolicy = .giveUpAfter attempts positive) (step : DeviceStep)
    (held : state.locked = true) :
    allReturned ((step.body config).run model state).value.answers = true := by
  cases step with
  | withBus steps value failure =>
    simp only [DeviceStep.body, Bus.run_map]
    exact allReturned_innerSteps_held model config bounded steps held
  | _ =>
    simp only [DeviceStep.body, Bus.run_map]
    rfl

/-- A device whose lock gives up answers every request, on a free bus and on one that is held. -/
theorem returned_program {attempts : UInt32} {positive : 0 < attempts}
    (bounded : config.lockPolicy = .giveUpAfter attempts positive) (step : DeviceStep)
    (state : BusState σ) :
    ((step.program config).run model state).value.returned = true := by
  cases held : state.locked with
  | true => exact (returned_program_held model config bounded step held).1
  | false =>
    refine (DeviceAnswer.returned_iff _).mpr ⟨?_, ?_⟩
    · -- The failures of a request on a free bus are its own faults and those of the bus.
      intro failed
      obtain fault | ⟨card, bus⟩ := fault_of_failure model config step held failed
      · cases fault
      · cases bus
    · rw [DeviceStep.program_eq]
      cases step.precheck config with
      | error cause => cases step <;> rfl
      | ok done =>
        simp only [run_locking_free model config _ _ held]
        exact allReturned_body model config bounded step rfl

/-- A report of an answer, as a client sees it that may be left without one. -/
def Report.answered (report : Report DeviceAnswer) : Report (Option DeviceAnswer) :=
  ⟨some report.value, report.exchanges, report.lines⟩

/-- So a session with it is the series of its programs, to the end. -/
theorem serveDevice_eq_runAll {attempts : UInt32} {positive : 0 < attempts}
    (bounded : config.lockPolicy = .giveUpAfter attempts positive) (steps : List DeviceStep)
    (state : BusState σ) :
    serveDevice model config steps state =
      let ran := Bus.runAll model (steps.map (DeviceStep.program config)) state
      (ran.1.map Report.answered, some ran.2) := by
  induction steps generalizing state with
  | nil => rfl
  | cons step rest ih =>
    rw [serveDevice]
    simp only [returned_program model config bounded step state, if_true, ih]
    rfl

/-- A lock that waits for ever does so under a caller that holds it, once the checks are passed. -/
theorem unanswered_of_held (patient : config.lockPolicy = .waitForever) (step : DeviceStep)
    (held : state.locked = true) (checked : step.precheck config = .ok ()) :
    ((step.program config).run model state).value.returned = false := by
  obtain ⟨value, -⟩ :=
    run_locking_held model config (fun cause => step.refused cause) (step.body config) held
  simp only [DeviceStep.program_eq, checked, value, patient, LockPolicy.refusal]
  cases step <;> rfl

/-- A request that waits for itself keeps the steps behind it waiting, too. -/
theorem run_innerSteps_unanswered (step : DeviceStep) (rest : List InnerStep) (state : BusState σ)
    (waits : ((step.program config).run model state).value.returned = false) :
    (innerSteps config (.device step :: rest)).run model state =
      let first := (step.program config).run model state
      ⟨(none, [.device first.value]), first.state, first.exchanges, first.lines⟩ := by
  rw [innerSteps, InnerStep.program, Bus.run_bind]
  simp [InnerAnswer.returned, waits]

/--
A session with such a lock is over once a program that holds the bus calls back to the device.

Neither that program nor its steps and the requests behind it go on, and the host is not called.
-/
theorem serveDevice_nested (patient : config.lockPolicy = .waitForever) (nested : DeviceStep)
    (others : List InnerStep) (value : Nat) (failure : Option CardError) (rest : List DeviceStep)
    (free : state.locked = false) (checked : nested.precheck config = .ok ()) :
    let calling := DeviceStep.withBus (.device nested :: others) value failure
    ∃ report, serveDevice model config (calling :: rest) state = ([report], none)
      ∧ report.value = none ∧ report.exchanges = [] := by
  intro calling
  let held : BusState σ := { state with locked := true }
  have waits : ((nested.program config).run model held).value.returned = false :=
    unanswered_of_held model config patient nested rfl checked
  have silent : ((nested.program config).run model held).exchanges = [] := by
    rw [DeviceStep.program_eq, checked]
    exact (run_locking_held model config _ _ rfl).2.2.2
  have inner := run_innerSteps_unanswered model config nested others held waits
  -- The program that holds the bus has the unanswered request as its only answer.
  have program : (calling.program config).run model state =
      let first := (nested.program config).run model held
      ⟨.bus (busResult none failure value) [.device first.value],
        { first.state with locked := false }, first.exchanges, first.lines⟩ := by
    rw [DeviceStep.program_eq]
    simp only [calling, DeviceStep.precheck, run_locking_free model config _ _ free, DeviceStep.body,
      Bus.run_map]
    rw [inner]
    rfl
  have unanswered : (DeviceAnswer.bus (busResult none failure value)
      [.device ((nested.program config).run model held).value]).returned = false := by
    simp [DeviceAnswer.returned, allReturned, InnerAnswer.returned, waits]
  refine ⟨⟨none, [], ((nested.program config).run model held).lines⟩, ?_, rfl, rfl⟩
  rw [serveDevice, program]
  simp only [unanswered, silent]
  rfl

end Answered

end CardLink
