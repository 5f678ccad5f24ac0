import CardLink.Proofs.Relay.History

/-!
An interrupt is let through once for each time that the relay is armed, and it is answered by whether
it called the handler itself.
-/

namespace CardLink

namespace RelayRun

/-- How many handlers the stages at a depth call themselves, within so many steps. -/
def callsAt (depth : Nat) : Nat → RelayRun → Nat
  | 0, _ => 0
  | count + 1, run =>
    (if run.stack.length = depth then run.step.handlerCalls - run.handlerCalls else 0)
      + callsAt depth count run.step

/-- Calls within steps add up. -/
theorem callsAt_add (depth : Nat) (run : RelayRun) (first second : Nat) :
    run.callsAt depth (first + second) =
      run.callsAt depth first + (run.steps first).callsAt depth second := by
  -- The induction is on the first steps, which come before all others.
  induction first generalizing run with
  | zero => rw [Nat.zero_add, callsAt, Nat.zero_add, steps]
  | succ first ih => rw [Nat.succ_add, callsAt, callsAt, ih, Nat.add_assoc, steps]

/-- While more stages stand above, none at the depth of the first of them goes on. -/
theorem callsAt_of_above {run : RelayRun} {frame : RelayFrame} {below : List RelayFrame} {count : Nat}
    (above : ∀ earlier < count, (run.steps earlier).Above (frame :: below)) :
    run.callsAt (below.length + 1) count = 0 := by
  -- A stack with more stages above is deeper than the depth asked for.
  induction count generalizing run with
  | zero => rfl
  | succ count ih =>
    obtain ⟨top, upper, stages⟩ := above 0 (Nat.succ_pos _)
    have deeper : run.stack.length ≠ below.length + 1 := by
      have length := congrArg List.length stages
      simp only [steps, List.length_append, List.length_cons] at length
      omega
    have later : ∀ earlier < count, (run.step.steps earlier).Above (frame :: below) :=
      fun earlier before => above (earlier + 1) (Nat.succ_lt_succ before)
    rw [callsAt, if_neg deeper, ih later]

/-- A stage ends with a yes or a no, and with so many calls of the handler by itself. -/
def Concludes (run : RelayRun) (below : List RelayFrame) (called : Bool) (calls : Nat) : Prop :=
  ∃ count, run.Returns below count ∧ (run.steps count).answer = .truth called
    ∧ run.callsAt (below.length + 1) count = calls

/-- A stage that ends with its own step concludes at once. -/
theorem Concludes.of_last {run next : RelayRun} {frame : RelayFrame} {below : List RelayFrame}
    {called : Bool} (stages : run.stack = frame :: below) (stepped : run.step = next)
    (ended : next.stack = below) (answered : next.answer = .truth called)
    (silent : next.handlerCalls = run.handlerCalls) : run.Concludes below called 0 := by
  -- The only step leaves nothing above the stages below, and calls no handler.
  subst stepped
  refine ⟨1, Returns.of_step ⟨frame, [], stages⟩ ⟨ended, ?_⟩, answered, ?_⟩
  · exact fun _ before => absurd before (Nat.not_lt_zero _)
  · simp [callsAt, silent]

/-- A stage that leaves another one at its place concludes as that one does once it goes on. -/
theorem concludes_of_next {run : RelayRun} {frame next : RelayFrame} {below upper : List RelayFrame}
    (stages : run.stack = frame :: below) (followed : run.step.stack = upper ++ next :: below) :
    ∃ later : RelayRun, later.stack = next :: below
      ∧ ∀ {called : Bool} {calls : Nat}, later.Concludes below called calls →
        run.Concludes below called (run.step.handlerCalls - run.handlerCalls + calls) := by
  -- What stands above the next stage comes to its end without a call at this depth.
  obtain ⟨first, down, returns⟩ := exists_returns_next stages followed
  refine ⟨run.step.steps first, down.back, ?_⟩
  rintro called calls ⟨second, returned, answered, counted⟩
  refine ⟨first + second + 1, returns second returned, ?_, ?_⟩
  · rw [steps, steps_add]
    exact answered
  · have depth : run.stack.length = below.length + 1 := by rw [stages, List.length_cons]
    rw [callsAt, if_pos depth, callsAt_add, callsAt_of_above down.above, counted, Nat.zero_add]

/-- A handler that returns makes the interrupt a delivered one. -/
theorem handler_concludes {run : RelayRun} {registration : Registration} {below : List RelayFrame}
    (stages : run.stack = .handler registration :: below) : run.Concludes below true 0 := by
  -- The return of a handler is its last step.
  have silent : (({ run with stack := below } : RelayRun).returned registration).handlerCalls =
      run.handlerCalls := by
    rw [returned, handlerCalls_reply, handlerCalls_see]
    rfl
  exact .of_last stages (step_of_stack stages) rfl rfl silent

/-- An interrupt that is handed to the slot calls a handler: the slot can be read and is not empty. -/
def serves (run : RelayRun) : Bool := run.relay.use.beginRead?.isSome && run.relay.slot.isSome

/-- An interrupt handed to the slot is answered by whether it called the handler. -/
theorem deliver_concludes {run : RelayRun} {below : List RelayFrame}
    (stages : run.stack = .deliver :: below) :
    run.Concludes below run.serves run.serves.toNat := by
  -- The slot is being changed, or it is empty, or it holds the handler to call.
  have stepped := step_of_stack stages
  rw [advance, hand] at stepped
  split at stepped
  · rename_i refused
    have lost : run.serves = false := by simpa [serves] using fun some => by simp [refused] at some
    rw [lost]
    exact .of_last stages stepped rfl rfl rfl
  · rename_i empty
    have lost : run.serves = false := by simpa [serves] using fun _ => empty
    rw [lost]
    exact .of_last stages stepped rfl rfl rfl
  · -- The handler is called by this step, and the stage that waits for it calls no other.
    rename_i use registration begun slot
    have served : run.serves = true := by
      rw [serves, show run.relay.use.beginRead? = some use from begun,
        show run.relay.slot = some registration from slot]
      rfl
    obtain ⟨scripts, followed⟩ := stack_callHandler
      ({ run with stack := below, relay := { run.relay with use } } : RelayRun) registration
    have calls : run.step.handlerCalls = run.handlerCalls + 1 := by
      rw [stepped, handlerCalls_callHandler]
      rfl
    obtain ⟨later, waiting, concludes⟩ := concludes_of_next stages (by rw [stepped]; exact followed)
    have concluded := concludes (handler_concludes waiting)
    rw [calls, Nat.add_sub_cancel_left] at concluded
    rw [served]
    exact concluded

/-- An interrupt is answered by whether it called the handler, which it does at most once. -/
theorem interrupt_concludes {run : RelayRun} {below : List RelayFrame}
    (stages : run.stack = .start .interrupt :: below) :
    ∃ called : Bool, run.Concludes below called called.toNat := by
  -- Only an armed relay writes the mask and goes on to deliver.
  cases armed : run.takes .interrupt with
  | false => exact ⟨false, .of_last stages (step_of_not_takes stages armed) rfl rfl rfl⟩
  | true =>
    -- The mask write comes to its end before the interrupt is delivered.
    obtain ⟨use, stepped⟩ := step_of_takes stages armed
    obtain ⟨scripts, followed⟩ := stack_switch
      ({ run with stack := below, relay := { run.relay with use } } : RelayRun)
      (RelayRequest.interrupt = .enable) .deliver
    obtain ⟨later, waiting, concludes⟩ := concludes_of_next stages (by rw [stepped]; exact followed)
    have concluded := deliver_concludes waiting
    have silent : run.step.handlerCalls = run.handlerCalls := by
      rw [stepped, handlerCalls_switch]
      rfl
    have result := concludes concluded
    rw [silent, Nat.sub_self, Nat.zero_add] at result
    exact ⟨later.serves, result⟩

/--
The relay delivers at most once for each time that it is enabled, however clients call back.

No more handlers are called than enabling requests began. A request either sets the switch as it
begins, or is answered at once and changes nothing else, and an interrupt sets it exactly if the last
request that did so before is an enabling one, which therefore serves no other interrupt. An interrupt
is answered by whether it called the handler itself, and it does so at most once.
-/
theorem one_delivery_per_enable {run : RelayRun} {history : List Beginning}
    (reached : Reached run history) :
    run.handlerCalls ≤ history.countP (·.request = .enable)
    ∧ (∀ before after, switchers history = before ++ .interrupt :: after →
        before.getLast? = some .enable)
    ∧ (∀ request below, run.stack = .start request :: below →
        (run.beginning = some ⟨request, true⟩ ∧ request ≠ .isEnabled
          ∧ run.step.relay.armed = decide (request = .enable)
          ∧ run.step.relay.writes = run.relay.writes + 1)
        ∨ (run.beginning = some ⟨request, false⟩ ∧ request ≠ .enable ∧ request ≠ .disable
          ∧ run.step = { run with stack := below, answer := run.declined request }))
    ∧ (∀ below, run.stack = .start .interrupt :: below →
        (run.beginning = some ⟨.interrupt, true⟩ ↔ (switchers history).getLast? = some .enable)
        ∧ ∃ count called, run.Returns below count ∧ (run.steps count).answer = .truth called
          ∧ run.callsAt (below.length + 1) count = called.toNat) := by
  -- The account of the history settles all but the last part, which follows the stages.
  have accounted := reached.accounted
  refine ⟨?_, accounted.follows, ?_, ?_⟩
  · -- Each call belongs to an interrupt, and each interrupt to an enabling request.
    have enabled := count_switchers_le history .enable
    have spent := accounted.spent
    have called := accounted.called
    omega
  · intro request below stages
    rw [beginning_of_start stages]
    cases taking : run.takes request with
    | true =>
      left
      obtain ⟨use, stepped⟩ := step_of_takes stages taking
      rw [stepped, relay_switch]
      refine ⟨rfl, ?_, rfl, rfl⟩
      rintro rfl
      cases taking
    | false =>
      right
      refine ⟨rfl, ?_, ?_, step_of_not_takes stages taking⟩
      · rintro rfl
        cases taking
      · rintro rfl
        cases taking
  · intro below stages
    rw [← accounted.armed_iff, beginning_of_start stages]
    constructor
    · simp [takes]
    · obtain ⟨called, count, concluded⟩ := interrupt_concludes stages
      exact ⟨count, called, concluded⟩

/-- A handler enables the relay and is interrupted, while the first interrupt waits for it. -/
theorem one_delivery_per_enable_nested :
    let start : RelayRun := {
      control := [[.isEnabled]], handlers := [[[.enable, .interrupt]]], logger := { filter := .off } }
    let ready := (start.perform (.register ⟨0, 7⟩)).perform .enable
    let nested := (ready.push (.start .interrupt)).steps 7
    let history : List Beginning := [⟨.register ⟨0, 7⟩, true⟩, ⟨.isEnabled, false⟩, ⟨.enable, true⟩,
      ⟨.interrupt, true⟩, ⟨.enable, true⟩]
    let below : List RelayFrame := [.report .interrupt, .script [], .handler ⟨0, 7⟩]
    Reached nested history ∧ nested.stack = .start .interrupt :: below
      ∧ nested.handlerCalls ≤ history.countP (·.request = .enable)
      ∧ (nested.beginning = some ⟨.interrupt, true⟩ ↔ (switchers history).getLast? = some .enable)
      ∧ ∃ count called, nested.Returns below count ∧ (nested.steps count).answer = .truth called
        ∧ nested.callsAt (below.length + 1) count = called.toNat := by
  intro start ready nested history below
  -- Two requests from outside come first, and the third one is stopped on its way.
  have fresh : Reached start [] := .fresh [[.isEnabled]] [[[.enable, .interrupt]]] { filter := .off }
  have registered := fresh.perform rfl (.register ⟨0, 7⟩)
  have enabled := registered.perform (stack_perform _ _) .enable
  have interrupted := (enabled.asked .interrupt (stack_perform _ _)).steps 7
  let registering := start.push (.start (.register ⟨0, 7⟩))
  let enabling := (start.perform (.register ⟨0, 7⟩)).push (.start .enable)
  have begun : [] ++ registering.begun registering.work ++ enabling.begun enabling.work
      ++ (ready.push (.start .interrupt)).begun 7 = history := by decide +kernel
  have reached : Reached nested history := begun ▸ interrupted
  have stages : nested.stack = .start .interrupt :: below := by decide +kernel
  obtain ⟨bound, -, -, interrupts⟩ := one_delivery_per_enable reached
  obtain ⟨passes, concluded⟩ := interrupts below stages
  exact ⟨reached, stages, bound, passes, concluded⟩

end RelayRun

end CardLink
