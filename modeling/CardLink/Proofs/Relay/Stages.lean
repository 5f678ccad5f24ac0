import CardLink.Relay.RunLaws

/-!
Stages of a relay run: each one works above the stages below it, leaves them as they are, and comes
to its end.
-/

namespace CardLink

/-- A handler was called. -/
def RelayEvent.isEnter : RelayEvent → Bool
  | .enter _ => true
  | _ => false

namespace RelayRun

/-- The number of handler calls so far. -/
def handlerCalls (run : RelayRun) : Nat := run.events.countP RelayEvent.isEnter

section Effects

variable (run : RelayRun)

/-- A new stage stands above the others. -/
@[simp] theorem stack_push (frame : RelayFrame) : (run.push frame).stack = frame :: run.stack := rfl

/-- Seeing an event leaves the stages as they are. -/
@[simp] theorem stack_see (event : RelayEvent) : (run.see event).stack = run.stack := rfl

/-- Answering leaves the stages as they are. -/
@[simp] theorem stack_reply (answer : RelayAnswer) : (run.reply answer).stack = run.stack := rfl

/-- Logging leaves the stages as they are. -/
@[simp] theorem stack_note (level : LogLevel) (message : String) :
    (run.note level message).stack = run.stack := rfl

/-- Only a call to a handler counts as one. -/
@[simp] theorem handlerCalls_see (event : RelayEvent) :
    (run.see event).handlerCalls = run.handlerCalls + event.isEnter.toNat := by
  cases event <;> simp [handlerCalls, see, RelayEvent.isEnter]

/-- Changing the relay calls no handler. -/
@[simp] theorem handlerCalls_relay (relay : Relay) :
    ({ run with relay } : RelayRun).handlerCalls = run.handlerCalls := rfl

/-- A new stage calls no handler yet. -/
@[simp] theorem handlerCalls_push (frame : RelayFrame) :
    (run.push frame).handlerCalls = run.handlerCalls := rfl

/-- An answer calls no handler. -/
@[simp] theorem handlerCalls_reply (answer : RelayAnswer) :
    (run.reply answer).handlerCalls = run.handlerCalls := rfl

/-- A log record calls no handler. -/
@[simp] theorem handlerCalls_note (level : LogLevel) (message : String) :
    (run.note level message).handlerCalls = run.handlerCalls := rfl

/-- A mask write runs its script above the stage that follows it. -/
theorem stack_switch (on : Bool) (continuation : RelayFrame) :
    ∃ scripts : List (List RelayRequest), (run.switch on continuation).stack =
      scripts.map RelayFrame.script ++ continuation :: run.stack := by
  -- There is at most one script, the next one of the mask.
  unfold switch
  split
  · exact ⟨[], rfl⟩
  · rename_i script rest found
    exact ⟨[script], rfl⟩

/-- A mask write sets switch and mask. -/
@[simp] theorem relay_switch (on : Bool) (continuation : RelayFrame) :
    (run.switch on continuation).relay = run.relay.switch on := by
  cases scripts : run.control <;> simp [switch, scripts, push, see]

/-- A mask write calls no handler. -/
@[simp] theorem handlerCalls_switch (on : Bool) (continuation : RelayFrame) :
    (run.switch on continuation).handlerCalls = run.handlerCalls := by
  cases scripts : run.control <;> simp [switch, scripts, handlerCalls, push, see, RelayEvent.isEnter]

/-- A handler runs its script above its own stage. -/
theorem stack_callHandler (registration : Registration) :
    ∃ scripts : List (List RelayRequest), (run.callHandler registration).stack =
      scripts.map RelayFrame.script ++ .handler registration :: run.stack := by
  -- There is at most one script, the next one of the handler.
  unfold callHandler
  split
  · rename_i script rest found
    exact ⟨[script], rfl⟩
  · exact ⟨[], rfl⟩

/-- A handler is called once. -/
@[simp] theorem handlerCalls_callHandler (registration : Registration) :
    (run.callHandler registration).handlerCalls = run.handlerCalls + 1 := by
  unfold callHandler
  split <;> simp [handlerCalls, push, see, RelayEvent.isEnter]

/-- Calling a handler leaves the relay as it is. -/
@[simp] theorem relay_callHandler (registration : Registration) :
    (run.callHandler registration).relay = run.relay := by
  unfold callHandler
  split <;> rfl

end Effects

/-- A request that sets the switch puts its followers above the stages below it. -/
theorem stack_begin (run : RelayRun) (request : RelayRequest) :
    ∃ followers, (run.begin request).stack = followers ++ run.stack := by
  -- A request is answered at once, or writes the mask and leaves its next stage behind.
  have switched (run : RelayRun) (on : Bool) (continuation : RelayFrame) :
      ∃ followers, (run.switch on continuation).stack = followers ++ run.stack := by
    obtain ⟨scripts, stages⟩ := run.stack_switch on continuation
    exact ⟨_, stages.trans (List.append_cons ..)⟩
  have changed (content : Option Registration) :
      ∃ followers, (run.change content).stack = followers ++ run.stack := by
    unfold change
    split
    · exact ⟨[], rfl⟩
    · exact switched _ _ _
  cases request with
  | register registration => exact changed (some registration)
  | unregister => exact changed none
  | enable => exact switched run true .settle
  | disable => exact switched run false .settle
  | interrupt =>
    rw [begin]
    split
    · exact switched run false .deliver
    · exact ⟨[], rfl⟩
  | isEnabled => exact ⟨[], rfl⟩

/-- A stage that goes on puts its followers above the stages below it. -/
theorem stack_advance (run : RelayRun) (frame : RelayFrame) :
    ∃ followers, (run.advance frame).stack = followers ++ run.stack := by
  -- No stage looks at the ones below it.
  cases frame with
  | start request => exact run.stack_begin request
  | script requests =>
    cases requests with
    | nil => exact ⟨[], rfl⟩
    | cons request rest => exact ⟨[.start request, .report request, .script rest], rfl⟩
  | report request => exact ⟨[], rfl⟩
  | install content =>
    refine ⟨[], ?_⟩
    cases content <;> rfl
  | settle => exact ⟨[], rfl⟩
  | deliver =>
    rw [advance, hand]
    split
    · exact ⟨[], rfl⟩
    · exact ⟨[], rfl⟩
    · rename_i use registration _ _
      obtain ⟨scripts, stages⟩ :=
        ({ run with relay := { run.relay with use } } : RelayRun).stack_callHandler registration
      exact ⟨_, stages.trans (List.append_cons ..)⟩
  | handler registration => exact ⟨[], rfl⟩

/-- One step of a run takes the stage on top away and goes on with it. -/
theorem step_of_stack {run : RelayRun} {frame : RelayFrame} {rest : List RelayFrame}
    (stages : run.stack = frame :: rest) : run.step = { run with stack := rest }.advance frame := by
  rw [step, stages]

/-- One step leaves the stages below the one on top as they are. -/
theorem stack_step {run : RelayRun} {frame : RelayFrame} {rest : List RelayFrame}
    (stages : run.stack = frame :: rest) : ∃ followers, run.step.stack = followers ++ rest := by
  rw [step_of_stack stages]
  exact stack_advance { run with stack := rest } frame

/-- Steps add up. -/
theorem steps_add (run : RelayRun) (first second : Nat) :
    run.steps (first + second) = (run.steps first).steps second := by
  -- The induction is on the first steps, which are made before all others.
  induction first generalizing run with
  | zero => rw [Nat.zero_add, steps]
  | succ first ih => rw [Nat.succ_add, steps, steps, ih]

/-- A run has a stage above the given ones. -/
def Above (run : RelayRun) (below : List RelayFrame) : Prop :=
  ∃ frame upper, run.stack = frame :: upper ++ below

/-- A run comes back to the given stages after so many steps, and not before. -/
structure Returns (run : RelayRun) (below : List RelayFrame) (count : Nat) : Prop where
  /-- Nothing is left above the stages. -/
  back : (run.steps count).stack = below
  /-- Until then, something was. -/
  above : ∀ earlier < count, (run.steps earlier).Above below

namespace Returns

/-- A return after the first step is a return one step later. -/
theorem of_step {run : RelayRun} {below : List RelayFrame} {count : Nat} (above : run.Above below)
    (later : run.step.Returns below count) : run.Returns below (count + 1) := by
  -- Before the first step something stands above, and after it the later return counts.
  refine ⟨later.back, ?_⟩
  intro earlier before
  cases earlier with
  | zero => exact above
  | succ earlier => exact later.above earlier (Nat.lt_of_succ_lt_succ before)

/-- A return to one more stage and a return from there make up one return. -/
theorem trans {run : RelayRun} {frame : RelayFrame} {below : List RelayFrame} {first second : Nat}
    (one : run.Returns (frame :: below) first) (other : (run.steps first).Returns below second) :
    run.Returns below (first + second) := by
  -- Until the first return more than the lower stages is left, and then the second one counts.
  refine ⟨by rw [steps_add]; exact other.back, ?_⟩
  intro earlier before
  by_cases early : earlier < first
  · -- What stands above more stages stands above fewer.
    obtain ⟨top, upper, stages⟩ := one.above earlier early
    exact ⟨top, upper ++ [frame], by rw [stages]; simp⟩
  · have split : earlier = first + (earlier - first) := by omega
    rw [split, steps_add]
    exact other.above _ (by omega)

end Returns

/-- Every run comes back to the stages that it stands on. -/
theorem exists_returns {run : RelayRun} {upper below : List RelayFrame}
    (stages : run.stack = upper ++ below) : ∃ count, run.Returns below count := by
  -- Each step leaves the lower stages alone and uses up work.
  induction counted : run.work using Nat.strongRecOn generalizing run upper with
  | ind budget ih =>
    cases upper with
    | nil => exact ⟨0, stages, fun _ before => absurd before (Nat.not_lt_zero _)⟩
    | cons frame upper =>
      obtain ⟨followers, after⟩ := stack_step stages
      have less : run.step.work < budget := by
        rw [← counted]
        exact work_step_lt (by simp [stages])
      have remaining : run.step.stack = (followers ++ upper) ++ below :=
        after.trans (List.append_assoc ..).symm
      obtain ⟨count, later⟩ := ih run.step.work less remaining rfl
      exact ⟨count + 1, later.of_step ⟨frame, upper, stages⟩⟩

/-- A stage that leaves another one at its place comes to its end as that one does. -/
theorem exists_returns_next {run : RelayRun} {frame next : RelayFrame} {below upper : List RelayFrame}
    (stages : run.stack = frame :: below) (followed : run.step.stack = upper ++ next :: below) :
    ∃ first, run.step.Returns (next :: below) first
      ∧ ∀ second, (run.step.steps first).Returns below second →
        run.Returns below (first + second + 1) := by
  -- What stands above the next stage comes to its end first.
  obtain ⟨first, down⟩ := exists_returns followed
  exact ⟨first, down, fun second returned => (down.trans returned).of_step ⟨frame, [], stages⟩⟩

end RelayRun

end CardLink
