import CardLink.Proofs.Relay.Delivery

/-!
The handler slot of a relay: the stages under way say who uses it and what it holds, however clients
call back.
-/

namespace CardLink

/-- What a request puts into the slot, if it changes the slot at all. -/
def RelayRequest.content? : RelayRequest → Option (Option Registration)
  | .register registration => some (some registration)
  | .unregister => some none
  | .enable | .disable | .interrupt | .isEnabled => none

/-- The handler that the last change put into the slot. -/
def standing (switched : List RelayRequest) : Option Registration :=
  (switched.filterMap RelayRequest.content?).getLast?.join

/-- One more change decides what stands in the slot. -/
theorem standing_append_change (switched : List RelayRequest) {request : RelayRequest}
    {content : Option Registration} (changes : request.content? = some content) :
    standing (switched ++ [request]) = content := by
  simp [standing, changes]

/-- A request that is no change leaves what stands in the slot. -/
theorem standing_append_other (switched : List RelayRequest) {request : RelayRequest}
    (other : request.content? = none) : standing (switched ++ [request]) = standing switched := by
  simp [standing, other]

/-- A stage during which the slot is in use: a change that writes the mask, or a running handler. -/
def RelayFrame.usesSlot : RelayFrame → Bool
  | .install _ | .handler _ => true
  | .start _ | .script _ | .report _ | .settle | .deliver => false

/-- The stages under way that use the slot, the innermost first. -/
def slotUsers (stack : List RelayFrame) : List RelayFrame := stack.filter RelayFrame.usesSlot

/-- A handler is running under way, or a change of the slot writes the mask. -/
def SlotBusy (stack : List RelayFrame) : Prop :=
  (∃ registration, .handler registration ∈ stack) ∨ ∃ content, .install content ∈ stack

/-- The slot is busy exactly while some stage uses it. -/
theorem slotBusy_iff (stack : List RelayFrame) : SlotBusy stack ↔ slotUsers stack ≠ [] := by
  constructor
  · rintro (⟨registration, member⟩ | ⟨content, member⟩)
    · exact List.ne_nil_of_mem (List.mem_filter.mpr ⟨member, rfl⟩)
    · exact List.ne_nil_of_mem (List.mem_filter.mpr ⟨member, rfl⟩)
  · -- Any stage that uses the slot is of one of the two kinds.
    intro busy
    obtain ⟨frame, member⟩ := List.exists_mem_of_ne_nil _ busy
    obtain ⟨under, uses⟩ := List.mem_filter.mp member
    cases frame with
    | install content => exact .inr ⟨content, under⟩
    | handler registration => exact .inl ⟨registration, under⟩
    | _ => cases uses

/-- Scripts do not use the slot. -/
theorem slotUsers_scripts (scripts : List (List RelayRequest)) (stack : List RelayFrame) :
    slotUsers (scripts.map .script ++ stack) = slotUsers stack := by
  induction scripts with
  | nil => rfl
  | cons script rest ih => exact ih

namespace RelayRun

/-- A change takes the switch exactly if nobody uses the slot. -/
theorem takes_of_change (run : RelayRun) {request : RelayRequest} {content : Option Registration}
    (changes : request.content? = some content) :
    run.takes request = decide (run.relay.use = .free) := by
  -- Both kinds of change ask for the slot in the same way.
  have asks : run.takes request = run.relay.use.beginWrite?.isSome := by
    cases request <;> first | rfl | cases changes
  rw [asks]
  cases run.relay.use <;> rfl

/-- The step in which a change takes the slot and writes the mask. -/
theorem step_of_change {run : RelayRun} {request : RelayRequest} {content : Option Registration}
    {below : List RelayFrame} (stages : run.stack = .start request :: below)
    (changes : request.content? = some content) (free : run.relay.use = .free) :
    run.step =
      ({ run with stack := below, relay := { run.relay with use := .writing } } : RelayRun).switch
        false (.install content) := by
  rw [step_of_stack stages]
  cases request with
  | register registration => cases changes; simp [advance, begin, change, free, SlotUse.beginWrite?]
  | unregister => cases changes; simp [advance, begin, change, free, SlotUse.beginWrite?]
  | _ => cases changes

/-- The step in which another request takes the switch, which leaves the use of the slot as it is. -/
theorem step_of_taken_other {run : RelayRun} {request : RelayRequest} {below : List RelayFrame}
    (stages : run.stack = .start request :: below) (taking : run.takes request = true)
    (other : request.content? = none) :
    run.step = ({ run with stack := below } : RelayRun).switch (request = .enable)
      request.continuation := by
  rw [step_of_stack stages]
  cases request with
  | register registration => cases other
  | unregister => cases other
  | enable => rfl
  | disable => rfl
  | interrupt => exact if_pos taking
  | isEnabled => cases taking

/-- What follows the mask write of such a request does not use the slot. -/
theorem slotUsers_continuation {request : RelayRequest} (other : request.content? = none)
    (stack : List RelayFrame) : slotUsers (request.continuation :: stack) = slotUsers stack := by
  cases request with
  | register registration => cases other
  | unregister => cases other
  | _ => rfl

/-- The slot is being changed, or serves calls of one handler within each other, or is not in use. -/
inductive SlotState (run : RelayRun) (installed : Option Registration) : Prop where
  /-- One change is under way and nothing else uses the slot. -/
  | changing (users : slotUsers run.stack = [.install installed]) (use : run.relay.use = .writing)
  /-- All calls under way are of the handler that was installed. -/
  | serving (registration : Registration) (more : Nat)
      (users : slotUsers run.stack = List.replicate (more + 1) (.handler registration))
      (use : run.relay.use = .reading more) (slot : run.relay.slot = some registration)
      (stands : installed = some registration)
  /-- The slot holds what was installed. -/
  | unused (users : slotUsers run.stack = []) (use : run.relay.use = .free)
      (slot : run.relay.slot = installed)

namespace SlotState

variable {run next : RelayRun} {installed : Option Registration}

/-- Whatever leaves the slot and its users alone keeps the state of the slot. -/
theorem aside (state : SlotState run installed)
    (users : slotUsers next.stack = slotUsers run.stack)
    (slot : next.relay.slot = run.relay.slot) (use : next.relay.use = run.relay.use) :
    SlotState next installed := by
  cases state with
  | changing here writing => exact .changing (users.trans here) (use.trans writing)
  | serving registration more here reading held stands =>
    exact .serving registration more (users.trans here) (use.trans reading) (slot.trans held) stands
  | unused here free held => exact .unused (users.trans here) (use.trans free) (slot.trans held)

/-- Nobody uses the slot exactly if no stage under way does. -/
theorem free_iff (state : SlotState run installed) :
    run.relay.use = .free ↔ slotUsers run.stack = [] := by
  cases state with
  | changing users use => simp [users, use]
  | serving registration more users use slot stands => simp [users, use, List.replicate_succ]
  | unused users use slot => simp [users, use]

/-- While a handler is running, the slot holds it. -/
theorem slot_of_handler (state : SlotState run installed) {registration : Registration}
    (running : .handler registration ∈ run.stack) : run.relay.slot = some registration := by
  have user : .handler registration ∈ slotUsers run.stack :=
    List.mem_filter.mpr ⟨running, rfl⟩
  cases state with
  | changing users use => simp [users] at user
  | serving other more users use slot stands =>
    rw [users] at user
    cases List.eq_of_mem_replicate user
    exact slot
  | unused users use slot => simp [users] at user

/-- A change of the slot is under way exactly while the slot is taken for writing. -/
theorem changing_iff (state : SlotState run installed) :
    (∃ content, .install content ∈ run.stack) ↔ run.relay.use = .writing := by
  have users (content : Option Registration) :
      .install content ∈ run.stack ↔ .install content ∈ slotUsers run.stack := by
    rw [slotUsers, List.mem_filter]
    exact ⟨fun member => ⟨member, rfl⟩, And.left⟩
  simp only [users]
  cases state with
  | changing here writing => simp [here, writing]
  | serving registration more here reading slot stands => simp [here, reading]
  | unused here free slot => simp [here, free]

/-- A change that ends leaves the slot free, with the content that it brought. -/
theorem installed_state {below : List RelayFrame} {content : Option Registration}
    (state : SlotState run installed) (stages : run.stack = .install content :: below) :
    SlotState (({ run with stack := below } : RelayRun).installed content) installed := by
  have users : slotUsers run.stack = .install content :: slotUsers below := by rw [stages]; rfl
  cases state with
  | changing here use =>
    rw [users] at here
    obtain ⟨same, none⟩ := List.cons.inj here
    rw [RelayFrame.install.inj same]
    cases installed with
    | none => exact .unused none rfl rfl
    | some registration => exact .unused none rfl rfl
  | serving registration more here use slot stands =>
    rw [users, List.replicate_succ] at here
    cases (List.cons.inj here).1
  | unused here use slot => simp [users] at here

/-- A handler that returns leaves the slot to the calls around it. -/
theorem returned_state {below : List RelayFrame} {registration : Registration}
    (state : SlotState run installed) (stages : run.stack = .handler registration :: below) :
    SlotState (({ run with stack := below } : RelayRun).returned registration) installed := by
  have users : slotUsers run.stack = .handler registration :: slotUsers below := by
    rw [stages]; rfl
  cases state with
  | changing here use => rw [users] at here; cases (List.cons.inj here).1
  | serving other more here use slot stands =>
    rw [users, List.replicate_succ] at here
    obtain ⟨-, around⟩ := List.cons.inj here
    cases more with
    | zero => exact .unused around (by simp [returned, use, SlotUse.endRead, see, reply]) (slot.trans stands.symm)
    | succ more =>
      exact .serving other more around (by simp [returned, use, SlotUse.endRead, see, reply]) slot stands
  | unused here use slot => simp [users] at here

/-- An interrupt that is handed to the slot calls the handler that was installed, or nothing. -/
theorem hand_state {below : List RelayFrame} (state : SlotState run installed)
    (stages : run.stack = .deliver :: below) :
    SlotState ({ run with stack := below } : RelayRun).hand installed := by
  have users : slotUsers run.stack = slotUsers below := by rw [stages]; rfl
  rw [hand]
  split
  · exact state.aside users.symm rfl rfl
  · exact state.aside users.symm rfl rfl
  · -- One more call joins those under way, which are of the handler in the slot.
    rename_i use registration begun held
    obtain ⟨scripts, stack⟩ := stack_callHandler
      ({ run with stack := below, relay := { run.relay with use } } : RelayRun) registration
    have joined : slotUsers (({ run with stack := below, relay := { run.relay with use } } :
        RelayRun).callHandler registration).stack = .handler registration :: slotUsers run.stack := by
      rw [stack, slotUsers_scripts, users]
      rfl
    cases state with
    | changing here writing => rw [writing] at begun; cases begun
    | serving other more here reading slot stands =>
      rw [reading] at begun
      cases begun
      have same : other = registration := Option.some.inj (slot.symm.trans held)
      subst same
      refine .serving other (more + 1) ?_ (by rw [relay_callHandler]) ?_ stands
      · rw [joined, here]
        rfl
      · rw [relay_callHandler]
        exact slot
    | unused here free slot =>
      rw [free] at begun
      cases begun
      refine .serving registration 0 ?_ (by rw [relay_callHandler]) ?_ (slot.symm.trans held)
      · rw [joined, here]
        rfl
      · rw [relay_callHandler]
        exact held

/-- A request that begins leaves the slot to its users, or takes it for a change. -/
theorem start_state {history : List Beginning} {request : RelayRequest} {below : List RelayFrame}
    (state : SlotState run (standing (switchers history)))
    (stages : run.stack = .start request :: below) :
    SlotState run.step (standing (switchers (history ++ [⟨request, run.takes request⟩]))) := by
  have users : slotUsers run.stack = slotUsers below := by rw [stages]; rfl
  cases taking : run.takes request with
  | false =>
    rw [switchers_append_other, step_of_not_takes stages taking]
    exact state.aside users.symm rfl rfl
  | true =>
    rw [switchers_append_switched]
    cases changes : request.content? with
    | none =>
      rw [standing_append_other _ changes, step_of_taken_other stages taking changes]
      obtain ⟨scripts, stack⟩ := stack_switch ({ run with stack := below } : RelayRun)
        (request = .enable) request.continuation
      refine state.aside ?_ (by rw [relay_switch]; rfl) (by rw [relay_switch]; rfl)
      rw [stack, slotUsers_scripts, slotUsers_continuation changes, users]
    | some content =>
      -- A change begins while nobody uses the slot, so it is the only user afterwards.
      have free : run.relay.use = .free := by simpa [run.takes_of_change changes] using taking
      have none := state.free_iff.mp free
      rw [standing_append_change _ changes, step_of_change stages changes free]
      obtain ⟨scripts, stack⟩ := stack_switch
        ({ run with stack := below, relay := { run.relay with use := .writing } } : RelayRun)
        false (.install content)
      refine .changing ?_ (by rw [relay_switch]; rfl)
      rw [stack, slotUsers_scripts]
      exact congrArg (List.cons _) (users.symm.trans none)

/-- A step keeps the state of the slot. -/
theorem step {history : List Beginning} (state : SlotState run (standing (switchers history))) :
    SlotState run.step (standing (switchers (history ++ run.beginning.toList))) := by
  cases stages : run.stack with
  | nil =>
    have idle : run.step = run := steps_of_rest stages 1
    have none : run.beginning = none := by simp only [beginning, stages]
    rw [idle, none, Option.toList_none, List.append_nil]
    exact state
  | cons frame below =>
    by_cases starting : ∃ request, frame = .start request
    · obtain ⟨request, rfl⟩ := starting
      rw [beginning_of_start stages]
      exact state.start_state stages
    · -- No request begins, so what was installed stays the same.
      have other : ∀ request, frame ≠ .start request := fun request same => starting ⟨request, same⟩
      rw [beginning_of_other stages other, Option.toList_none, List.append_nil, step_of_stack stages]
      have users (idle : frame.usesSlot = false) : slotUsers run.stack = slotUsers below := by
        rw [stages, slotUsers, List.filter_cons_of_neg (by simp [idle])]
        rfl
      cases frame with
      | start request => exact absurd rfl (other request)
      | script requests =>
        cases requests <;> exact state.aside (users rfl).symm rfl rfl
      | report request => exact state.aside (users rfl).symm rfl rfl
      | settle => exact state.aside (users rfl).symm rfl rfl
      | install content => exact state.installed_state stages
      | deliver => exact state.hand_state stages
      | handler registration => exact state.returned_state stages

end SlotState

/-- Whatever clients bring about, the history says what the slot holds. -/
theorem Reached.slotState {run : RelayRun} {history : List Beginning} (reached : Reached run history) :
    SlotState run (standing (switchers history)) := by
  -- The slot starts empty and unused, and each step keeps its state.
  induction reached with
  | fresh control handlers logger => exact .unused rfl rfl rfl
  | asked request reached idle ih => exact ih.aside rfl rfl rfl
  | moved reached ih => exact ih.step

/-- Relay and host let no interrupt through. -/
def Masked (run : RelayRun) : Prop := run.relay.armed = false ∧ run.relay.mask = false

/-- Only an enabling request ends the masking. -/
theorem Masked.step {run : RelayRun} (masked : run.Masked)
    (quiet : ∀ begun ∈ run.beginning, begun.request ≠ .enable) : run.step.Masked := by
  cases stages : run.stack with
  | nil =>
    have idle : run.step = run := steps_of_rest stages 1
    rw [idle]
    exact masked
  | cons frame below =>
    by_cases starting : ∃ request, frame = .start request
    · obtain ⟨request, rfl⟩ := starting
      rw [beginning_of_start stages] at quiet
      have other : request ≠ .enable := quiet _ rfl
      cases taking : run.takes request with
      | true =>
        obtain ⟨use, stepped⟩ := step_of_takes stages taking
        rw [Masked, stepped, relay_switch]
        exact ⟨decide_eq_false other, decide_eq_false other⟩
      | false =>
        rw [step_of_not_takes stages taking]
        exact masked
    · have other : ∀ request, frame ≠ .start request := fun request same => starting ⟨request, same⟩
      obtain ⟨slot, use, relay⟩ := relay_advance { run with stack := below } other
      rw [Masked, step_of_stack stages, relay]
      exact masked

/-- The masking lasts through all steps in which nothing enables the relay. -/
theorem Masked.steps {run : RelayRun} (masked : run.Masked) {count : Nat}
    (quiet : ∀ begun ∈ run.begun count, begun.request ≠ .enable) : (run.steps count).Masked := by
  induction count generalizing run with
  | zero => exact masked
  | succ count ih =>
    rw [begun] at quiet
    refine ih (masked.step fun begun here => quiet begun ?_) fun begun later => quiet begun ?_
    · exact List.mem_append_left _ (Option.mem_toList.mpr here)
    · exact List.mem_append_right _ later

/-- A change that finds the slot unused is made, after its mask write has come to its end. -/
theorem change_succeeds {run : RelayRun} {request : RelayRequest} {content : Option Registration}
    {below : List RelayFrame} (stages : run.stack = .start request :: below)
    (changes : request.content? = some content) (free : run.relay.use = .free) :
    ∃ count, run.Returns below count ∧ (run.steps count).answer = .changed
      ∧ (run.steps count).relay.slot = content
      ∧ ((∀ begun ∈ run.begun count, begun.request ≠ .enable) → (run.steps count).Masked) := by
  have stepped := step_of_change stages changes free
  obtain ⟨scripts, followed⟩ := stack_switch
    ({ run with stack := below, relay := { run.relay with use := .writing } } : RelayRun)
    false (.install content)
  obtain ⟨first, down, returns⟩ := exists_returns_next stages (by rw [stepped]; exact followed)
  -- Only the last step is left when nothing stands above the change any more.
  have last : (run.step.steps first).step =
      ({ run.step.steps first with stack := below } : RelayRun).installed content :=
    step_of_stack down.back
  have whole : run.steps (first + 1 + 1) = (run.step.steps first).step := by
    rw [RelayRun.steps, steps_add]
    rfl
  refine ⟨first + 1 + 1, returns 1 (.of_step ⟨_, [], down.back⟩ ⟨?_, ?_⟩), ?_, ?_, ?_⟩
  · rw [RelayRun.steps, last]
    cases content <;> rfl
  · exact fun _ before => absurd before (Nat.not_lt_zero _)
  · rw [whole, last]
    rfl
  · rw [whole, last]
    cases content <;> rfl
  · -- The mask was written by the first step, and only an enabling request writes it otherwise.
    intro quiet
    have masked : run.step.Masked := by
      rw [Masked, stepped, relay_switch]
      exact ⟨rfl, rfl⟩
    exact masked.steps fun begun later => quiet begun (List.mem_append_right _ later)

/-- A handler is only called by the step in which an interrupt is handed to the slot. -/
theorem deliver_of_call {run : RelayRun} (called : run.handlerCalls < run.step.handlerCalls) :
    ∃ below, run.stack = .deliver :: below := by
  cases stages : run.stack with
  | nil =>
    have idle : run.step = run := steps_of_rest stages 1
    rw [idle] at called
    exact absurd called (Nat.lt_irrefl _)
  | cons frame below =>
    by_cases starting : ∃ request, frame = .start request
    · -- A request that begins writes the mask at most.
      obtain ⟨request, rfl⟩ := starting
      have silent : run.step.handlerCalls = run.handlerCalls := by
        cases taking : run.takes request with
        | true =>
          obtain ⟨use, stepped⟩ := step_of_takes stages taking
          rw [stepped, handlerCalls_switch]
          rfl
        | false =>
          rw [step_of_not_takes stages taking]
          rfl
      omega
    · have other : ∀ request, frame ≠ .start request := fun request same => starting ⟨request, same⟩
      by_cases delivers : frame = .deliver
      · exact ⟨below, by rw [delivers]⟩
      · -- Any other stage would have to use up a stage that delivers below it.
        have calls := handlerCalls_advance { run with stack := below } other
        obtain ⟨followers, kept⟩ := stack_advance { run with stack := below } frame
        rw [step_of_stack stages] at called
        rw [kept, List.count_append, List.count_cons_of_ne delivers] at calls
        simp only [handlerCalls] at calls called
        omega

/-- A handler that is called is the one in the slot, and the slot was not being changed. -/
theorem slot_of_call {run : RelayRun} {registration : Registration}
    (called : run.step.events = run.events ++ [.enter registration]) :
    ∃ below use, run.stack = .deliver :: below ∧ run.relay.slot = some registration
      ∧ run.relay.use.beginRead? = some use
      ∧ run.step = ({ run with stack := below, relay := { run.relay with use } } : RelayRun).callHandler
          registration := by
  have more : run.step.handlerCalls = run.handlerCalls + 1 := by
    rw [handlerCalls, called, List.countP_append]
    rfl
  have calls : run.handlerCalls < run.step.handlerCalls := by omega
  obtain ⟨below, stages⟩ := deliver_of_call calls
  have stepped := step_of_stack stages
  rw [advance, hand] at stepped
  split at stepped
  · rw [stepped] at more
    exact absurd more.symm (Nat.succ_ne_self _)
  · rw [stepped] at more
    exact absurd more.symm (Nat.succ_ne_self _)
  · rename_i use held begun slot
    have events : run.step.events = run.events ++ [.enter held] := by
      rw [stepped, callHandler]
      split <;> rfl
    have same : held = registration := by simpa [called] using events.symm
    subst same
    exact ⟨below, use, stages, slot, begun, stepped⟩

/-- From its call to its return, the slot holds the handler that was called. -/
theorem slot_during_call {run : RelayRun} {history : List Beginning} (reached : Reached run history)
    {registration : Registration}
    (called : run.step.events = run.events ++ [.enter registration]) :
    ∃ below count, run.stack = .deliver :: below ∧ run.Returns below count
      ∧ ∀ moment ≤ count, (run.steps moment).relay.slot = some registration := by
  obtain ⟨below, use, stages, slot, -, stepped⟩ := slot_of_call called
  obtain ⟨scripts, followed⟩ := stack_callHandler
    ({ run with stack := below, relay := { run.relay with use } } : RelayRun) registration
  obtain ⟨first, down, returns⟩ := exists_returns_next stages (by rw [stepped]; exact followed)
  have last : (run.step.steps first).step =
      ({ run.step.steps first with stack := below } : RelayRun).returned registration :=
    step_of_stack down.back
  refine ⟨below, first + 1 + 1, stages,
    returns 1 (.of_step ⟨_, [], down.back⟩ ⟨by rw [RelayRun.steps, last]; rfl, ?_⟩), ?_⟩
  · exact fun _ before => absurd before (Nat.not_lt_zero _)
  -- While the handler is running its stage is under way, and its return leaves the slot alone.
  have during (moment : Nat) (early : moment ≤ first) :
      (run.step.steps moment).relay.slot = some registration := by
    have later := (reached.moved.steps moment).slotState
    rcases Nat.lt_or_eq_of_le early with before | rfl
    · obtain ⟨top, upper, stack⟩ := down.above moment before
      exact later.slot_of_handler (by rw [stack]; simp)
    · exact later.slot_of_handler (by rw [down.back]; simp)
  intro moment within
  rcases moment with - | moment
  · exact slot
  · rcases Nat.lt_or_eq_of_le within with before | ended
    · exact during moment (by omega)
    · have whole : run.steps (moment + 1) = (run.step.steps first).step := by
        rw [ended, RelayRun.steps, steps_add]
        rfl
      rw [whole, last]
      exact during first (Nat.le_refl _)

/-- An interrupt handed to the slot calls no handler if the slot is empty or being changed. -/
theorem SlotState.serves_eq_false_iff {run : RelayRun} {installed : Option Registration}
    (state : SlotState run installed) {below : List RelayFrame}
    (stages : run.stack = .deliver :: below) :
    run.serves = false ↔ run.relay.slot = none ∨ ∃ content, .install content ∈ below := by
  have changing : (∃ content, .install content ∈ below) ↔ run.relay.use = .writing := by
    rw [← state.changing_iff, stages]
    simp
  rw [changing, serves]
  cases run.relay.use with
  | free => simp [SlotUse.beginRead?]
  | reading more => simp [SlotUse.beginRead?]
  | writing => simp [SlotUse.beginRead?]

/--
Clients change the slot only while nobody uses it, and each handler call is of what stands in it.

A change is refused exactly if a handler is running or another change writes the mask further down,
and then nothing happens; any other change is made, and leaves the relay masked unless a request enables
it meanwhile. A handler that is called was put into the slot by the last change and stays there until
it returns, so that calls within each other are of one handler. An interrupt that was let through
calls none exactly if it finds the slot empty or being changed.
-/
theorem slot_discipline {run : RelayRun} {history : List Beginning} (reached : Reached run history) :
    (∀ request content below, request.content? = some content →
      run.stack = .start request :: below →
        (SlotBusy below → run.beginning = some ⟨request, false⟩
          ∧ run.step = { run with stack := below, answer := .refused .lockTimeout })
        ∧ (¬ SlotBusy below → run.beginning = some ⟨request, true⟩
          ∧ ∃ count, run.Returns below count ∧ (run.steps count).answer = .changed
            ∧ (run.steps count).relay.slot = content
            ∧ ((∀ begun ∈ run.begun count, begun.request ≠ .enable) → (run.steps count).Masked)))
    ∧ (∀ registration, run.step.events = run.events ++ [.enter registration] →
        standing (switchers history) = some registration
        ∧ (∀ content, .install content ∉ run.stack)
        ∧ ∃ below count, run.stack = .deliver :: below ∧ run.Returns below count
          ∧ ∀ moment ≤ count, (run.steps moment).relay.slot = some registration)
    ∧ (∀ outer inner, .handler outer ∈ run.stack → .handler inner ∈ run.stack → outer = inner)
    ∧ (∀ below, run.stack = .start .interrupt :: below →
        run.beginning = some ⟨.interrupt, true⟩ →
        ∃ reading rest called, run.step.Returns (.deliver :: below) reading
          ∧ (run.step.steps reading).Returns below rest
          ∧ ((run.step.steps reading).steps rest).answer = .truth called
          ∧ (called = false ↔ (run.step.steps reading).relay.slot = none
              ∨ ∃ content, .install content ∈ below)) := by
  have state := reached.slotState
  refine ⟨?_, ?_, ?_, ?_⟩
  · intro request content below changes stages
    -- A request on top does not use the slot itself.
    have users : slotUsers run.stack = slotUsers below := by rw [stages]; rfl
    have busy : SlotBusy below ↔ run.relay.use ≠ .free := by
      rw [slotBusy_iff, ne_eq, ne_eq, state.free_iff, users]
    rw [busy, beginning_of_start stages, run.takes_of_change changes, Classical.not_not]
    constructor
    · intro used
      have leaving : run.takes request = false := by simpa [run.takes_of_change changes] using used
      have refused : run.declined request = .refused .lockTimeout := by
        cases request <;> first | rfl | cases changes
      exact ⟨by rw [decide_eq_false used], by rw [step_of_not_takes stages leaving, refused]⟩
    · intro free
      exact ⟨by rw [decide_eq_true free], change_succeeds stages changes free⟩
  · intro registration called
    obtain ⟨below, use, -, slot, begun, -⟩ := slot_of_call called
    -- The slot can be read, so it holds what the last change put into it.
    have readable : run.relay.use ≠ .writing := by
      intro writing
      rw [writing] at begun
      cases begun
    refine ⟨?_, fun content changing => readable (state.changing_iff.mp ⟨content, changing⟩),
      slot_during_call reached called⟩
    cases state with
    | changing users writing => exact absurd writing readable
    | serving other more users reading held stands => rw [stands, ← held, slot]
    | unused users free held => rw [← held, slot]
  · intro outer inner outside inside
    exact Option.some.inj ((state.slot_of_handler outside).symm.trans (state.slot_of_handler inside))
  · intro below stages through
    have taking : run.takes .interrupt = true := by
      rw [beginning_of_start stages] at through
      exact congrArg Beginning.switched (Option.some.inj through)
    -- The mask write comes to its end first, and then the slot is looked at.
    have stepped := step_of_taken_other stages taking rfl
    obtain ⟨scripts, followed⟩ := stack_switch ({ run with stack := below } : RelayRun)
      (RelayRequest.interrupt = .enable) RelayRequest.interrupt.continuation
    obtain ⟨reading, down, -⟩ := exists_returns_next stages (by rw [stepped]; exact followed)
    obtain ⟨rest, returned, answered, -⟩ := deliver_concludes down.back
    exact ⟨reading, rest, _, down, returned, answered,
      (reached.moved.steps reading).slotState.serves_eq_false_iff down.back⟩

/-- A handler is called within a call of itself, and asks in vain for another one to be installed. -/
theorem slot_discipline_nested :
    let start : RelayRun := {
      control := [], handlers := [[[.enable, .interrupt], [.register ⟨1, 9⟩]]]
      logger := { filter := .off } }
    let registering := start.push (.start (.register ⟨0, 7⟩))
    let interrupted :=
      ((start.perform (.register ⟨0, 7⟩)).perform .enable).push (.start .interrupt)
    let calling := interrupted.steps 8
    let asking := interrupted.steps 10
    let around : List RelayFrame := [.report .interrupt, .script [], .handler ⟨0, 7⟩]
    let below : List RelayFrame :=
      [.report (.register ⟨1, 9⟩), .script [], .handler ⟨0, 7⟩] ++ around
    (registering.stack = [.start (.register ⟨0, 7⟩)] ∧ ¬ SlotBusy []
        ∧ ∃ count, registering.Returns [] count ∧ (registering.steps count).answer = .changed
          ∧ (registering.steps count).relay.slot = some ⟨0, 7⟩)
      ∧ (calling.step.events = calling.events ++ [.enter ⟨0, 7⟩]
        ∧ ∃ below count, calling.stack = .deliver :: below ∧ calling.Returns below count
          ∧ ∀ moment ≤ count, (calling.steps moment).relay.slot = some ⟨0, 7⟩)
      ∧ (interrupted.stack = [.start .interrupt]
        ∧ interrupted.beginning = some ⟨.interrupt, true⟩
        ∧ ∃ reading rest called, interrupted.step.Returns [.deliver] reading
          ∧ (interrupted.step.steps reading).Returns [] rest
          ∧ ((interrupted.step.steps reading).steps rest).answer = .truth called)
      ∧ (asking.stack = .start (.register ⟨1, 9⟩) :: below ∧ SlotBusy below
        ∧ asking.step = { asking with stack := below, answer := .refused .lockTimeout }) := by
  intro start registering interrupted calling asking around below
  have fresh : Reached start [] :=
    .fresh [] [[[.enable, .interrupt], [.register ⟨1, 9⟩]]] { filter := .off }
  have registered := fresh.perform rfl (.register ⟨0, 7⟩)
  have enabled := registered.perform (stack_perform _ _) .enable
  have reached := enabled.asked .interrupt (stack_perform _ _)
  have unused : ¬ SlotBusy [] := by simp [SlotBusy]
  have busy : SlotBusy below := .inl ⟨⟨0, 7⟩, by decide⟩
  have entered : calling.step.events = calling.events ++ [.enter ⟨0, 7⟩] := by decide +kernel
  have asked : asking.stack = .start (.register ⟨1, 9⟩) :: below := by decide +kernel
  have idle : interrupted.stack = [.start .interrupt] := by decide +kernel
  have through : interrupted.beginning = some ⟨.interrupt, true⟩ := by decide +kernel
  -- Each part is the discipline at one moment of the run.
  obtain ⟨-, count, returned, changed, held, -⟩ :=
    ((slot_discipline (fresh.asked (.register ⟨0, 7⟩) rfl)).1 _ _ [] rfl rfl).2 unused
  obtain ⟨-, -, called⟩ := (slot_discipline (reached.steps 8)).2.1 ⟨0, 7⟩ entered
  obtain ⟨reading, rest, yes, handed, ended, answered, -⟩ :=
    (slot_discipline reached).2.2.2 [] idle through
  obtain ⟨-, refused⟩ := ((slot_discipline (reached.steps 10)).1 _ _ below rfl asked).1 busy
  exact ⟨⟨rfl, unused, count, returned, changed, held⟩, ⟨entered, called⟩,
    ⟨idle, through, reading, rest, yes, handed, ended, answered⟩, asked, busy, refused⟩

end RelayRun

end CardLink
