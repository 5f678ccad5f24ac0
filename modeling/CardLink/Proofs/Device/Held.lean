import CardLink.Proofs.Device.Refusal
import CardLink.Proofs.Operation

/-!
The bus lock over whole runs: it is free after every request, and a device whose bus is held turns its
own caller away, so that the steps in between run as they do on the bare host.
-/

namespace CardLink

/-- The request to the host in a step that runs while the bus is held. -/
def InnerStep.host? : InnerStep → Option HostStep
  | host step => some step
  | device _ => none

/-- Runs requests on a bare host up to the first failure: that failure, if any, and the answers. -/
def untilFailure : List HostStep → Bus (Option CardError × List HostAnswer)
  | [] => return (none, [])
  | step :: rest => do
    let answer ← step.program
    match answer.failure? with
    | some cause => return (some cause, [answer])
    | none =>
      let others ← untilFailure rest
      return (others.1, answer :: others.2)

/-- The answer to a caller that holds the bus itself: an early refusal, or else that of the lock. -/
def DeviceStep.turnedAway (step : DeviceStep) : DeviceAnswer :=
  step.refused (step.earlyRefusal?.getD .lockTimeout)

namespace DeviceStep

/-- A refusal reaches its caller, unless the caller waits for itself. -/
theorem returned_refused (step : DeviceStep) {cause : DeviceError} (other : cause ≠ .selfBlocked) :
    (step.refused cause).returned = true := by
  have reached {α : Type} : resultReturned (.error cause : Except DeviceError α) = true := by
    cases cause <;> first | rfl | exact absurd rfl other
  cases step with
  | withBus steps value failure => exact Bool.and_eq_true_iff.mpr ⟨reached, rfl⟩
  | _ => exact reached

/-- A caller that is turned away gets to know of it. -/
theorem returned_turnedAway (config : DeviceConfig) (step : DeviceStep) (fits : step.Fits config) :
    step.turnedAway.returned = true := by
  apply step.returned_refused
  cases early : step.earlyRefusal? with
  | none => exact DeviceError.noConfusion
  | some cause =>
    -- An early refusal finds fault with the request, and waits for nothing.
    have checked := step.precheck_eq config fits
    rw [early] at checked
    have fault := step.inRequest_of_precheck config checked
    rintro rfl
    cases fault

end DeviceStep

/-- The answers to steps with the bus held, given those of the host: the first failure is the last. -/
def heldAnswers : List InnerStep → List HostAnswer → List InnerAnswer
  | .device step :: rest, answers => .device step.turnedAway :: heldAnswers rest answers
  | .host _ :: rest, answer :: answers =>
    .host answer :: if answer.failure?.isSome then [] else heldAnswers rest answers
  | .host _ :: _, [] => []
  | [], _ => []

section Run

variable {σ : Type} (model : HostModel σ) {state : BusState σ} (config : DeviceConfig)

/-- The first request to a bare host runs, and a failure leaves out the others. -/
theorem run_untilFailure_cons (step : HostStep) (rest : List HostStep) (state : BusState σ) :
    (untilFailure (step :: rest)).run model state =
      let first := step.program.run model state
      match first.value.failure? with
      | some cause => ⟨(some cause, [first.value]), first.state, first.exchanges, first.lines⟩
      | none =>
        let others := (untilFailure rest).run model first.state
        ⟨(others.value.1, first.value :: others.value.2), others.state,
          first.exchanges ++ others.exchanges, first.lines ++ others.lines⟩ := by
  -- The answer to the first request decides whether there is a second part.
  rw [untilFailure, Bus.run_bind]
  cases failed : (step.program.run model state).value.failure? <;> simp [failed]

/-- A request to the host that runs while the bus is held is its own program, up to a failure. -/
theorem run_innerSteps_host (step : HostStep) (rest : List InnerStep) (state : BusState σ) :
    (innerSteps config (.host step :: rest)).run model state =
      let first := step.program.run model state
      match first.value.failure? with
      | some cause => ⟨(some cause, [.host first.value]), first.state, first.exchanges, first.lines⟩
      | none =>
        let others := (innerSteps config rest).run model first.state
        ⟨(others.value.1, .host first.value :: others.value.2), others.state,
          first.exchanges ++ others.exchanges, first.lines ++ others.lines⟩ := by
  -- The answer of the host decides, as it does on the bare host.
  rw [innerSteps, InnerStep.program, Bus.run_bind]
  cases failed : (step.program.run model state).value.failure? <;>
    simp [failed, InnerAnswer.returned]

/-- A request to the device that is answered lets the steps behind it go on, whatever the answer is. -/
theorem run_innerSteps_device (step : DeviceStep) (rest : List InnerStep) (state : BusState σ)
    (answered : ((step.program config).run model state).value.returned = true) :
    (innerSteps config (.device step :: rest)).run model state =
      let first := (step.program config).run model state
      let others := (innerSteps config rest).run model first.state
      ⟨(others.value.1, .device first.value :: others.value.2), others.state,
        first.exchanges ++ others.exchanges, first.lines ++ others.lines⟩ := by
  -- Whatever the device answers, no failure is handed on.
  rw [innerSteps, InnerStep.program, Bus.run_bind]
  simp [InnerAnswer.returned, answered]

/-- A caller that holds the bus itself is turned away, and nothing is done. -/
theorem run_program_held {attempts : UInt32} {positive : 0 < attempts}
    (bounded : config.lockPolicy = .giveUpAfter attempts positive) (step : DeviceStep)
    (fits : step.Fits config) (held : state.locked = true) :
    let ran := (step.program config).run model state
    ran.value = step.turnedAway ∧ ran.state.host = state.host ∧ ran.state.locked = true
      ∧ ran.exchanges = [] := by
  -- Either the checks refuse the request, or the lock does.
  simp only [DeviceStep.program_eq, step.precheck_eq config fits, DeviceStep.turnedAway]
  cases early : step.earlyRefusal? with
  | some cause => exact ⟨rfl, rfl, held, rfl⟩
  | none =>
    have refusal : config.lockPolicy.refusal = .lockTimeout := by rw [bounded]; rfl
    have turned := run_locking_held model config (fun cause => step.refused cause)
      (step.body config) held
    rw [refusal] at turned
    exact turned

/--
With the bus held, steps do to the host what the host requests among them do on their own.

The answers are those of the bare host, with every call to the device turned away in its place.
-/
theorem run_innerSteps_held {attempts : UInt32} {positive : 0 < attempts}
    (bounded : config.lockPolicy = .giveUpAfter attempts positive) (steps : List InnerStep)
    (fits : ∀ step, .device step ∈ steps → step.Fits config) {other : BusState σ}
    (held : state.locked = true) (same : state.host = other.host) :
    let ran := (innerSteps config steps).run model state
    let bare := (untilFailure (steps.filterMap InnerStep.host?)).run model other
    ran.value = (bare.value.1, heldAnswers steps bare.value.2) ∧ ran.state.host = bare.state.host
      ∧ ran.exchanges = bare.exchanges ∧ ran.state.locked = true := by
  -- Along the steps, the lock stays held and both hosts stay the same.
  induction steps generalizing state other with
  | nil => exact ⟨rfl, same, rfl, held⟩
  | cons step rest ih =>
    have later : ∀ step, .device step ∈ rest → step.Fits config :=
      fun step member => fits step (List.mem_cons_of_mem _ member)
    cases step with
    | device step =>
      -- The call changes nothing that the steps behind it could see.
      obtain ⟨value, host, locked, exchanges⟩ :=
        run_program_held model config bounded step (fits step List.mem_cons_self) held
      have answered : ((step.program config).run model state).value.returned = true := by
        rw [value]
        exact step.returned_turnedAway config (fits step List.mem_cons_self)
      obtain ⟨values, hosts, calls, locks⟩ := ih later locked (host.trans same)
      rw [run_innerSteps_device model config step rest state answered]
      simp only [List.filterMap_cons, InnerStep.host?]
      exact ⟨by rw [values, value]; rfl, hosts, by rw [exchanges, calls]; rfl, locks⟩
    | host step =>
      -- Both sides run the same program on the same host.
      obtain ⟨alike, locked⟩ := (Bus.compositional_leavesLock model).of_hostStep step state other same
      simp only [run_innerSteps_host, List.filterMap_cons, InnerStep.host?, run_untilFailure_cons,
        alike.value]
      cases failed : (step.program.run model other).value.failure? with
      | some cause =>
        exact ⟨by simp [heldAnswers, failed], alike.host, alike.exchanges, locked.trans held⟩
      | none =>
        obtain ⟨values, hosts, calls, locks⟩ := ih later (locked.trans held) alike.host
        exact ⟨by simp [heldAnswers, failed, values], hosts, by simp [alike.exchanges, calls], locks⟩

/-- On a free bus, a request fails for a fault of its own, or with a failure of the bus. -/
theorem fault_of_failure (step : DeviceStep) (free : state.locked = false) {cause : DeviceError}
    (failed : ((step.program config).run model state).value.failure? = some cause) :
    cause.inRequest = true ∨ ∃ card, cause = .bus card := by
  rw [DeviceStep.program_eq] at failed
  cases checked : step.precheck config with
  | error other =>
    -- The checks look at the request only.
    rw [checked] at failed
    simp only [Bus.run_pure, DeviceStep.failure?_refused, Option.some.injEq] at failed
    exact .inl (failed ▸ step.inRequest_of_precheck config checked)
  | ok done =>
    simp only [checked, run_locking_free model config _ _ free] at failed
    cases late : step.lateRefusal? with
    | some other =>
      rw [step.run_body_refused model _ config late, DeviceStep.failure?_refused] at failed
      exact .inl (Option.some.inj failed ▸ step.inRequest_of_lateRefusal late)
    | none =>
      cases access : step.target? with
      | some target =>
        -- What is left to a request for registers is a failed transfer.
        exact .inr ⟨_, step.cause_of_body model _ config (by rw [access]; rfl) checked late failed⟩
      | none =>
        cases step with
        | withBus inner value failure =>
          -- The steps in between fail with failures of the card, which are failures of the bus.
          simp only [DeviceStep.body, Bus.run_map] at failed
          split at failed
          · cases failed
            exact .inr ⟨_, rfl⟩
          · cases failed
        | _ => cases access

/-- What the result of a program on the bus is, given the failure of its steps and its own ending. -/
def busResult (stopped failure : Option CardError) (value : Nat) : Except DeviceError Nat :=
  match stopped <|> failure with
  | some cause => .error (.bus cause)
  | none => .ok value

/-- On a free bus, steps run as on the bare host, with every call to the device turned away. -/
theorem run_withBus_free {attempts : UInt32} {positive : 0 < attempts}
    (bounded : config.lockPolicy = .giveUpAfter attempts positive) (inner : List InnerStep)
    (value : Nat) (failure : Option CardError)
    (fits : ∀ nested, .device nested ∈ inner → nested.Fits config) (free : state.locked = false) :
    let ran := ((DeviceStep.withBus inner value failure).program config).run model state
    let bare := (untilFailure (inner.filterMap InnerStep.host?)).run model state
    ran.value = .bus (busResult bare.value.1 failure value) (heldAnswers inner bare.value.2)
      ∧ ran.state.host = bare.state.host ∧ ran.exchanges = bare.exchanges := by
  -- The lock is all that the steps see of the device around them.
  obtain ⟨values, hosts, calls, -⟩ := @run_innerSteps_held σ model { state with locked := true } config
    attempts positive bounded inner fits state rfl rfl
  simp only [DeviceStep.program_eq, DeviceStep.precheck, run_locking_free model config _ _ free,
    DeviceStep.body, Bus.run_map, values]
  exact ⟨rfl, hosts, calls⟩

/--
The bus lock over a whole run: it is free after every request, so no request waits for it in vain.

A call to the device from within a program that holds its bus is answered with its own early refusal
or with that of the lock, and does nothing. Leaving out all such calls, the program does what the host
requests among its steps do on the bare host up to the first failure, which is the result.
-/
theorem lock_discipline {attempts : UInt32} {positive : 0 < attempts}
    (bounded : config.lockPolicy = .giveUpAfter attempts positive) (steps : List DeviceStep)
    (free : state.locked = false) :
    let programs := steps.map (DeviceStep.program config)
    let reports := (Bus.runAll model programs state).1
    let after := fun count => (Bus.runAll model (programs.take count) state).2
    (∀ count, (after count).locked = false)
      ∧ (∀ place step, steps[place]? = some step →
        ∃ report, reports[place]? = some report ∧ report.value.failure? ≠ some .lockTimeout
          ∧ ∀ inner value failure, step = .withBus inner value failure →
            (∀ nested, .device nested ∈ inner → nested.Fits config) →
            let bare := (untilFailure (inner.filterMap InnerStep.host?)).run model (after place)
            report.value = .bus (busResult bare.value.1 failure value) (heldAnswers inner bare.value.2)
              ∧ report.exchanges = bare.exchanges ∧ (after (place + 1)).host = bare.state.host)
      ∧ ∀ (nested : DeviceStep) (held : BusState σ), nested.Fits config → held.locked = true →
        let ran := (nested.program config).run model held
        ran.value = nested.turnedAway ∧ ran.value.failure?.isSome ∧ ran.state.host = held.host
          ∧ ran.exchanges = [] := by
  intro programs reports after
  have unlocked (count : Nat) : (after count).locked = false := by
    -- Every request gives the lock back that it took.
    apply Bus.runAll_keeps model (·.locked = false) _ _ free
    intro program member before started
    obtain ⟨step, -, rfl⟩ := List.mem_map.mp (List.mem_of_mem_take member)
    exact step.locked_run_program model config started
  refine ⟨unlocked, ?_, ?_⟩
  · -- Each report is that of its own program, run on the bus that the ones before it left free.
    intro place step found
    have program : programs[place]? = some (step.program config) := by
      rw [List.getElem?_map, found]
      rfl
    refine ⟨_, by rw [Bus.runAll_getElem?, program]; rfl, ?_, ?_⟩
    · intro failed
      obtain fault | ⟨card, bus⟩ := fault_of_failure model config step (unlocked place) failed
      · cases fault
      · cases bus
    · rintro inner value failure rfl fits
      obtain ⟨values, hosts, calls⟩ :=
        run_withBus_free model config bounded inner value failure fits (unlocked place)
      refine ⟨values, calls, ?_⟩
      -- The state behind one more request is the one that its program leaves.
      rw [← hosts]
      exact congrArg BusState.host (Bus.runAll_take_succ model programs state program)
  · intro nested held fits locked
    obtain ⟨value, host, -, exchanges⟩ := run_program_held model config bounded nested fits locked
    refine ⟨value, ?_, host, exchanges⟩
    rw [value, DeviceStep.turnedAway, DeviceStep.failure?_refused]
    rfl

end Run

/-- Two nested calls are turned away around one request to the host, and the next one fails and ends it. -/
theorem lock_discipline_nested :
    let config : DeviceConfig := { lockPolicy := .giveUpAfter 2 (by decide) }
    let inner : List InnerStep := [.device (.readRegister 8 0), .host (.setBlockSize 512),
      .device (.readSpread 1 0x10 0 [[1, 2]]), .host .goIdle, .device (.readRegister 1 0)]
    let steps : List DeviceStep := [.withBus inner 7 none, .readRegister 1 0x10]
    let state : BusState ScriptedHost := {
      host := .ofScript { transfers := [{}, { failure := some .tuningFailed }] }
      logger := { filter := .off } }
    let reports := (Bus.runAll ScriptedHost.model (steps.map (DeviceStep.program config)) state).1
    let bare := (untilFailure [.setBlockSize 512, .goIdle]).run ScriptedHost.model state
    state.locked = false ∧ (∀ nested, .device nested ∈ inner → nested.Fits config)
      ∧ ∃ report, reports[0]? = some report
        ∧ report.value = .bus (.error (.bus .transferFailed))
          [.device (.value (.error .functionInvalid)), .host (.finished (.ok ())),
            .device (.buffers (.error .lockTimeout) [[1, 2]]), .host (.finished (.error .transferFailed))]
        ∧ report.exchanges = bare.exchanges := by
  intro config inner steps state reports bare
  have fits : ∀ nested, .device nested ∈ inner → nested.Fits config := by
    intro nested member
    simp only [inner, List.mem_cons, InnerStep.device.injEq, List.not_mem_nil, or_false, reduceCtorEq,
      false_or] at member
    rcases member with rfl | rfl | rfl <;> trivial
  have answers : bare.value =
      (some .transferFailed, [.finished (.ok ()), .finished (.error .transferFailed)]) := by
    subst bare state
    rfl
  obtain ⟨-, runs, -⟩ := @lock_discipline _ ScriptedHost.model state config 2 _ rfl steps rfl
  obtain ⟨report, found, -, bus⟩ := runs 0 _ rfl
  obtain ⟨value, exchanges, -⟩ := bus inner 7 none rfl fits
  change report.value = .bus (busResult bare.value.1 none 7) (heldAnswers inner bare.value.2) at value
  rw [answers] at value
  exact ⟨rfl, fits, report, found, value, exchanges⟩

end CardLink
