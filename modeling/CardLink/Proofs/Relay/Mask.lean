import CardLink.Proofs.Relay.History
import Mathlib.Algebra.Ring.Nat

/-!
The switch of a relay and the mask in the host: they agree whenever a client can look, and the mask is
written once for each request that is let in.
-/

namespace CardLink

/-- The value that an event wrote to the mask, if it is such a write. -/
def RelayEvent.written? : RelayEvent → Option Bool
  | .mask on => some on
  | .enter _ | .leave _ | .did _ _ => none

namespace RelayRun

/-- The values written to the mask so far, in order. -/
def written (run : RelayRun) : List Bool := run.events.filterMap RelayEvent.written?

/-- The value written to the mask last; the mask is off before the first write. -/
def lastWritten (run : RelayRun) : Bool := run.written.getLast?.getD false

/-- A request of this kind begins with the next step. -/
def starts (run : RelayRun) (request : RelayRequest) : Bool :=
  run.stack.head? = some (.start request)

/-- The next step turns a request away with a refusal, and does nothing else. -/
def refuses (run : RelayRun) : Bool :=
  run.step = { run with stack := run.stack.tail, answer := .refused .lockTimeout }

/-- A change of the slot begins with the next step, and it is not refused. -/
def startsChange (run : RelayRun) : Bool :=
  match run.stack with
  | .start (.register _) :: _ | .start .unregister :: _ => !run.refuses
  | _ => false

/-- An interrupt begins with the next step, and it finds the relay armed. -/
def letsThrough (run : RelayRun) : Bool := run.starts .interrupt && run.relay.armed

/-- A run that clients can bring about, with every state that it made a step from, the earliest first. -/
inductive Traced : RelayRun → List RelayRun → Prop where
  /-- Nothing was asked yet, whatever the scripts and the logger are. -/
  | fresh (control : List (List RelayRequest)) (handlers : List (List (List RelayRequest)))
      (logger : Logger) : Traced { control, handlers, logger } []
  /-- A request comes from outside while no other is under way. -/
  | asked {run : RelayRun} {past : List RelayRun} (request : RelayRequest)
      (traced : Traced run past) (idle : run.stack = []) : Traced (run.push (.start request)) past
  /-- The run makes one step. -/
  | moved {run : RelayRun} {past : List RelayRun} (traced : Traced run past) :
      Traced run.step (past ++ [run])

/-- The states from which a run makes so many steps. -/
def passed : Nat → RelayRun → List RelayRun
  | 0, _ => []
  | count + 1, run => run :: passed count run.step

/-- So many steps add the states that they were made from. -/
theorem Traced.steps {run : RelayRun} {past : List RelayRun} (traced : Traced run past) (count : Nat) :
    Traced (run.steps count) (past ++ run.passed count) := by
  induction count generalizing run past with
  | zero => simpa [RelayRun.steps, passed] using traced
  | succ count ih =>
    -- The first step leaves its own state behind, and the other steps leave theirs after it.
    rw [RelayRun.steps, passed, List.append_cons]
    exact ih traced.moved

/-- A request from outside that runs to its end adds the states in between. -/
theorem Traced.perform {run : RelayRun} {past : List RelayRun} (traced : Traced run past)
    (idle : run.stack = []) (request : RelayRequest) :
    let asked := run.push (.start request)
    Traced (run.perform request) (past ++ asked.passed asked.work) :=
  (traced.asked request idle).steps _

section Effects

variable (run : RelayRun)

/-- An event that writes the mask is one more write. -/
theorem written_see (event : RelayEvent) :
    (run.see event).written = run.written ++ event.written?.toList := by
  cases event <;> simp [written, see, RelayEvent.written?]

/-- Setting the switch writes the mask once. -/
theorem written_switch (on : Bool) (continuation : RelayFrame) :
    (run.switch on continuation).written = run.written ++ [on] := by
  cases scripts : run.control <;> simp [switch, scripts, written, push, see, RelayEvent.written?]

/-- Calling a handler writes no mask. -/
theorem written_callHandler (registration : Registration) :
    (run.callHandler registration).written = run.written := by
  unfold callHandler
  split <;> simp [written, push, see, RelayEvent.written?]

/-- Only a request that begins writes the mask. -/
theorem written_advance {frame : RelayFrame} (other : ∀ request, frame ≠ .start request) :
    (run.advance frame).written = run.written := by
  -- The other stages see calls and returns at most.
  cases frame with
  | start request => exact absurd rfl (other request)
  | script requests => cases requests <;> rfl
  | report request => exact (run.written_see _).trans (List.append_nil _)
  | install content => cases content <;> rfl
  | settle => rfl
  | deliver =>
    rw [advance, hand]
    split
    · rfl
    · rfl
    · exact written_callHandler _ _
  | handler registration => exact (written_see _ _).trans (List.append_nil _)

end Effects

/-- A change of the slot is turned away exactly if it does not take the switch. -/
theorem refuses_of_start {run : RelayRun} {request : RelayRequest} {below : List RelayFrame}
    (stages : run.stack = .start request :: below)
    (declined : run.declined request = .refused .lockTimeout) :
    run.refuses = !run.takes request := by
  cases taking : run.takes request with
  | true =>
    -- A refusal leaves the number of writes as it is.
    obtain ⟨use, stepped⟩ := step_of_takes stages taking
    have more : run.step.relay.writes = run.relay.writes + 1 := by rw [stepped, relay_switch]; rfl
    have differs : run.step ≠ { run with stack := run.stack.tail, answer := .refused .lockTimeout } := by
      intro same
      have writes := congrArg (fun next => next.relay.writes) same
      simp only [more] at writes
      omega
    exact decide_eq_false differs
  | false =>
    rw [refuses, step_of_not_takes stages taking, stages, declined]
    simp

/-- How many of the four kinds of request that write the mask begin with the next step. -/
def entries (run : RelayRun) : Nat :=
  (run.starts .enable).toNat + (run.starts .disable).toNat + run.startsChange.toNat
    + run.letsThrough.toNat

/-- A request that begins is let in exactly if it takes the switch. -/
theorem entries_of_start {run : RelayRun} {request : RelayRequest} {below : List RelayFrame}
    (stages : run.stack = .start request :: below) : run.entries = (run.takes request).toNat := by
  -- Each kind of request is counted in one place only.
  cases request with
  | register registration =>
    have refused := refuses_of_start stages rfl
    simp [entries, starts, startsChange, letsThrough, stages, refused]
  | unregister =>
    have refused := refuses_of_start stages rfl
    simp [entries, starts, startsChange, letsThrough, stages, refused]
  | enable => simp [entries, starts, startsChange, letsThrough, stages, takes]
  | disable => simp [entries, starts, startsChange, letsThrough, stages, takes]
  | interrupt => simp [entries, starts, startsChange, letsThrough, stages, takes]
  | isEnabled => simp [entries, starts, startsChange, letsThrough, stages, takes]

/-- Without a request on top, none is let in. -/
theorem entries_of_other {run : RelayRun} (other : ∀ request, run.stack.head? ≠ some (.start request)) :
    run.entries = 0 := by
  have none (request : RelayRequest) : run.starts request = false := decide_eq_false (other request)
  have unchanged : run.startsChange = false := by
    unfold startsChange
    split
    · rename_i stages
      exact absurd (by rw [stages]; rfl) (other _)
    · rename_i stages
      exact absurd (by rw [stages]; rfl) (other _)
    · rfl
  simp [entries, none, unchanged, letsThrough]

/-- Switch and mask have the value that was written last, and every write was counted. -/
structure Agrees (run : RelayRun) : Prop where
  /-- The switch has the value that was written last. -/
  armed : run.relay.armed = run.lastWritten
  /-- So has the mask. -/
  mask : run.relay.mask = run.lastWritten
  /-- Every write was counted. -/
  writes : run.relay.writes = run.written.length

namespace Agrees

variable {run next : RelayRun}

/-- Whatever writes no mask and leaves switch and mask alone keeps them in agreement. -/
theorem aside (agrees : Agrees run) (written : next.written = run.written) {slot : Option Registration}
    {use : SlotUse} (relay : next.relay = { run.relay with slot, use }) : Agrees next := by
  have last : next.lastWritten = run.lastWritten := by rw [lastWritten, written]; rfl
  refine ⟨?_, ?_, ?_⟩
  · rw [relay, last]
    exact agrees.armed
  · rw [relay, last]
    exact agrees.mask
  · rw [relay, written]
    exact agrees.writes

/-- Setting the switch writes the same value to the mask. -/
theorem switched (agrees : Agrees run) (on : Bool) (continuation : RelayFrame) :
    Agrees (run.switch on continuation) := by
  have last : (run.switch on continuation).lastWritten = on := by
    rw [lastWritten, written_switch, List.getLast?_concat, Option.getD_some]
  refine ⟨?_, ?_, ?_⟩
  · rw [relay_switch, last]
    rfl
  · rw [relay_switch, last]
    rfl
  · rw [relay_switch, written_switch, List.length_append, ← agrees.writes]
    rfl

/-- A step keeps switch and mask in agreement, and writes the mask once for a request that is let in. -/
theorem step (agrees : Agrees run) :
    Agrees run.step ∧ run.step.written.length = run.written.length + run.entries := by
  cases stages : run.stack with
  | nil =>
    have idle : run.step = run := steps_of_rest stages 1
    rw [idle, entries_of_other (by simp [stages])]
    exact ⟨agrees, rfl⟩
  | cons frame below =>
    by_cases starting : ∃ request, frame = .start request
    · obtain ⟨request, rfl⟩ := starting
      rw [entries_of_start stages]
      cases taking : run.takes request with
      | true =>
        obtain ⟨use, stepped⟩ := step_of_takes stages taking
        -- Taking a request uses the slot, and neither the switch nor the mask.
        have taken : Agrees ({ run with stack := below, relay := { run.relay with use } } : RelayRun) :=
          ⟨agrees.armed, agrees.mask, agrees.writes⟩
        rw [stepped]
        refine ⟨taken.switched _ _, ?_⟩
        rw [written_switch, List.length_append]
        rfl
      | false =>
        rw [step_of_not_takes stages taking]
        exact ⟨agrees.aside rfl rfl, rfl⟩
    · -- Any other stage leaves switch and mask alone.
      have other : ∀ request, frame ≠ .start request := fun request same => starting ⟨request, same⟩
      obtain ⟨slot, use, relay⟩ := relay_advance { run with stack := below } other
      have written := written_advance { run with stack := below } other
      rw [step_of_stack stages, entries_of_other (by simpa [stages] using other)]
      exact ⟨agrees.aside written relay, congrArg List.length written⟩

end Agrees

/-- Whatever clients bring about, switch and mask agree. -/
theorem Traced.agrees {run : RelayRun} {past : List RelayRun} (traced : Traced run past) :
    Agrees run := by
  induction traced with
  | fresh control handlers logger => exact ⟨rfl, rfl, rfl⟩
  | asked request traced idle ih => exact ih.aside rfl rfl
  | moved traced ih => exact ih.step.1

/-- The mask was written once for each request that was let in. -/
theorem Traced.length_written {run : RelayRun} {past : List RelayRun} (traced : Traced run past) :
    run.written.length = (past.map entries).sum := by
  induction traced with
  | fresh control handlers logger => rfl
  | asked request traced idle ih => exact ih
  | moved traced ih =>
    rw [traced.agrees.step.2, ih, List.map_append, List.sum_append, List.map_singleton,
      List.sum_singleton]

/-- The requests that were let in, kind by kind. -/
theorem sum_entries (past : List RelayRun) :
    (past.map entries).sum = past.countP (·.starts .enable) + past.countP (·.starts .disable)
      + past.countP startsChange + past.countP letsThrough := by
  induction past with
  | nil => rfl
  | cons run rest ih =>
    have counted (test : Bool) : (if test then 1 else 0) = test.toNat := by cases test <;> rfl
    simp only [List.map_cons, List.sum_cons, List.countP_cons, ih, entries, counted]
    omega

/--
Whatever clients bring about, and wherever they call back, the switch has the value that was written to
the mask last.

That is what the relay answers to whoever asks. The mask was written as often as requests began that
enable or disable the relay, or that change the slot and are not refused, or that are interrupts and
find the relay armed.
-/
theorem switch_follows_mask {run : RelayRun} {past : List RelayRun} (traced : Traced run past) :
    run.relay.armed = run.lastWritten ∧ run.relay.mask = run.lastWritten
    ∧ (∀ below, run.stack = .start .isEnabled :: below →
        run.step.answer = .truth run.lastWritten)
    ∧ run.relay.writes = run.written.length
    ∧ run.written.length = past.countP (·.starts .enable) + past.countP (·.starts .disable)
        + past.countP startsChange + past.countP letsThrough := by
  have agrees := traced.agrees
  refine ⟨agrees.armed, agrees.mask, ?_, agrees.writes, ?_⟩
  · intro below stages
    rw [step_of_not_takes stages rfl]
    exact congrArg RelayAnswer.truth agrees.armed
  · rw [traced.length_written, sum_entries]

/-- A change is enabled again from inside its own mask write, and a handler asks in vain for another one. -/
theorem switch_follows_mask_nested :
    let start : RelayRun := {
      control := [[.enable]], handlers := [[[.isEnabled, .unregister, .enable]]]
      logger := { filter := .off } }
    let registering := start.push (.start (.register ⟨0, 7⟩))
    let interrupted := (start.perform (.register ⟨0, 7⟩)).push (.start .interrupt)
    let past := registering.passed registering.work ++ interrupted.passed 12
    let run := interrupted.steps 12
    Traced run past ∧ run.relay.armed = run.lastWritten ∧ run.lastWritten = true
      ∧ run.relay.writes = 4
      ∧ run.relay.writes = past.countP (·.starts .enable) + past.countP (·.starts .disable)
        + past.countP startsChange + past.countP letsThrough := by
  intro start registering interrupted past run
  have fresh : Traced start [] := .fresh [[.enable]] [[[.isEnabled, .unregister, .enable]]] { filter := .off }
  have registered := fresh.perform rfl (.register ⟨0, 7⟩)
  have traced : Traced run past := (registered.asked .interrupt (stack_perform _ _)).steps 12
  obtain ⟨armed, -, -, counted, split⟩ := switch_follows_mask traced
  exact ⟨traced, armed, by decide +kernel, by decide +kernel, counted.trans split⟩

end RelayRun

end CardLink
