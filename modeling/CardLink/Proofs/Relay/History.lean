import CardLink.Proofs.Relay.Stages

/-!
The history of a relay run: which requests began and which of them set the switch, and what it says
about the switch and about the handler calls.
-/

namespace CardLink

/-- The stage that follows the mask write of a request. -/
def RelayRequest.continuation : RelayRequest → RelayFrame
  | .register registration => .install (some registration)
  | .unregister => .install none
  | .enable | .disable | .isEnabled => .settle
  | .interrupt => .deliver

/-- A request that began. -/
structure Beginning where
  /-- The request. -/
  request : RelayRequest
  /-- It set the switch, and wrote the mask with it. -/
  switched : Bool
  deriving DecidableEq

/-- The requests that set the switch, in the order in which they did. -/
def switchers (history : List Beginning) : List RelayRequest :=
  (history.filter Beginning.switched).map Beginning.request

/-- One more request that set the switch is the last one. -/
@[simp] theorem switchers_append_switched (history : List Beginning) (request : RelayRequest) :
    switchers (history ++ [⟨request, true⟩]) = switchers history ++ [request] := by
  simp [switchers]

/-- A request that did not set the switch is none of them. -/
@[simp] theorem switchers_append_other (history : List Beginning) (request : RelayRequest) :
    switchers (history ++ [⟨request, false⟩]) = switchers history := by
  simp [switchers]

/-- Not more requests of a kind set the switch than began. -/
theorem count_switchers_le (history : List Beginning) (request : RelayRequest) :
    (switchers history).count request ≤ history.countP (·.request = request) := by
  -- Each request that set the switch is one that began.
  induction history with
  | nil => exact Nat.le_refl _
  | cons first rest ih =>
    obtain ⟨asked, switched⟩ := first
    cases switched with
    | false =>
      have skipped : switchers (⟨asked, false⟩ :: rest) = switchers rest := rfl
      rw [skipped]
      exact Nat.le_trans ih (List.Sublist.countP_le (List.sublist_cons_self ..))
    | true =>
      have kept : switchers (⟨asked, true⟩ :: rest) = asked :: switchers rest := rfl
      rw [kept, List.count_cons, List.countP_cons]
      simp only [beq_iff_eq, decide_eq_true_eq]
      omega

namespace RelayRun

/-- A request sets the switch where it begins, unless it is refused or finds the relay not armed. -/
def takes (run : RelayRun) : RelayRequest → Bool
  | .register _ | .unregister => run.relay.use.beginWrite?.isSome
  | .enable | .disable => true
  | .interrupt => run.relay.armed
  | .isEnabled => false

/-- The answer to a request that does not set the switch. -/
def declined (run : RelayRun) : RelayRequest → RelayAnswer
  | .register _ | .unregister => .refused .lockTimeout
  | .enable | .disable => .switched
  | .interrupt => .truth false
  | .isEnabled => .truth run.relay.armed

/-- A request that takes the switch writes the mask and leaves a stage for what follows. -/
theorem begin_of_takes {run : RelayRun} {request : RelayRequest} (taking : run.takes request = true) :
    ∃ use, run.begin request =
      ({ run with relay := { run.relay with use } } : RelayRun).switch (request = .enable)
        request.continuation := by
  -- A change of the slot takes it for writing first, and the others leave it alone.
  have changed (content : Option Registration) (unused : run.relay.use.beginWrite?.isSome = true) :
      ∃ use, run.change content =
        ({ run with relay := { run.relay with use } } : RelayRun).switch false (.install content) := by
    obtain ⟨use, begun⟩ := Option.isSome_iff_exists.mp unused
    exact ⟨use, by rw [change, begun]⟩
  cases request with
  | register registration => exact changed (some registration) taking
  | unregister => exact changed none taking
  | enable => exact ⟨run.relay.use, rfl⟩
  | disable => exact ⟨run.relay.use, rfl⟩
  | interrupt => exact ⟨run.relay.use, if_pos taking⟩
  | isEnabled => cases taking

/-- A request that does not take the switch is answered at once, and nothing else changes. -/
theorem begin_of_not_takes {run : RelayRun} {request : RelayRequest}
    (leaving : run.takes request = false) :
    run.begin request = run.reply (run.declined request) := by
  -- A change is refused while the slot is used, and an interrupt while the relay is not armed.
  have changed (content : Option Registration) (used : run.relay.use.beginWrite?.isSome = false) :
      run.change content = run.reply (.refused .lockTimeout) := by
    rw [Option.isSome_eq_false_iff, Option.isNone_iff_eq_none] at used
    rw [change, used]
  cases request with
  | register registration => exact changed (some registration) leaving
  | unregister => exact changed none leaving
  | enable => cases leaving
  | disable => cases leaving
  | interrupt => exact if_neg (by rw [show run.relay.armed = false from leaving]; decide)
  | isEnabled => rfl

/-- The step in which a request takes the switch. -/
theorem step_of_takes {run : RelayRun} {request : RelayRequest} {rest : List RelayFrame}
    (stages : run.stack = .start request :: rest) (taking : run.takes request = true) :
    ∃ use, run.step =
      ({ run with stack := rest, relay := { run.relay with use } } : RelayRun).switch
        (request = .enable) request.continuation := by
  rw [step_of_stack stages]
  exact begin_of_takes taking

/-- The step in which a request is answered at once. -/
theorem step_of_not_takes {run : RelayRun} {request : RelayRequest} {rest : List RelayFrame}
    (stages : run.stack = .start request :: rest) (leaving : run.takes request = false) :
    run.step = { run with stack := rest, answer := run.declined request } := by
  rw [step_of_stack stages]
  exact begin_of_not_takes leaving

/-- Only a request that begins touches switch and mask. -/
theorem relay_advance (run : RelayRun) {frame : RelayFrame}
    (other : ∀ request, frame ≠ .start request) :
    ∃ slot use, (run.advance frame).relay = { run.relay with slot, use } := by
  -- The other stages change the slot and its use, or nothing of the relay.
  cases frame with
  | start request => exact absurd rfl (other request)
  | script requests => cases requests <;> exact ⟨_, _, rfl⟩
  | report request => exact ⟨_, _, rfl⟩
  | install content => cases content <;> exact ⟨_, _, rfl⟩
  | settle => exact ⟨_, _, rfl⟩
  | deliver =>
    rw [advance, hand]
    split
    · exact ⟨_, _, rfl⟩
    · exact ⟨_, _, rfl⟩
    · rw [relay_callHandler]
      exact ⟨_, _, rfl⟩
  | handler registration => exact ⟨_, _, rfl⟩

/-- Scripts deliver nothing themselves. -/
theorem count_deliver_scripts (scripts : List (List RelayRequest)) (stack : List RelayFrame) :
    (scripts.map RelayFrame.script ++ stack).count .deliver = stack.count .deliver := by
  -- No script is a stage that delivers.
  induction scripts with
  | nil => rfl
  | cons script rest ih =>
    rw [List.map_cons, List.cons_append, List.count_cons_of_ne (by simp), ih]

/-- A handler is only called by a stage that delivers an interrupt, which ends with it. -/
theorem handlerCalls_advance (run : RelayRun) {frame : RelayFrame}
    (other : ∀ request, frame ≠ .start request) :
    (run.advance frame).handlerCalls + (run.advance frame).stack.count .deliver ≤
      run.handlerCalls + (frame :: run.stack).count .deliver := by
  -- Every stage but one leaves both numbers as they are.
  cases frame with
  | start request => exact absurd rfl (other request)
  | script requests =>
    cases requests with
    | nil => simp [advance]
    | cons request rest => simp [advance]
  | report request => simp [advance, RelayEvent.isEnter]
  | install content => cases content <;> simp [advance, installed]
  | settle => simp [advance]
  | deliver =>
    rw [advance, hand]
    split
    · simp
    · simp
    · rename_i use registration _ _
      obtain ⟨scripts, stages⟩ :=
        ({ run with relay := { run.relay with use } } : RelayRun).stack_callHandler registration
      -- The stage that delivers is gone, and one more handler was called.
      rw [stages, count_deliver_scripts, handlerCalls_callHandler]
      simp only [handlerCalls_relay, List.count_cons, BEq.rfl, if_true, reduceCtorEq, beq_iff_eq,
        if_false]
      omega
  | handler registration => simp [advance, returned, RelayEvent.isEnter]

/-- The request that begins with the next step, if one does. -/
def beginning (run : RelayRun) : Option Beginning :=
  match run.stack with
  | .start request :: _ => some ⟨request, run.step.relay.writes ≠ run.relay.writes⟩
  | _ => none

/-- The requests that begin within so many steps. -/
def begun : Nat → RelayRun → List Beginning
  | 0, _ => []
  | count + 1, run => run.beginning.toList ++ begun count run.step

/-- A request that begins has set the switch exactly if it takes it. -/
theorem beginning_of_start {run : RelayRun} {request : RelayRequest} {rest : List RelayFrame}
    (stages : run.stack = .start request :: rest) :
    run.beginning = some ⟨request, run.takes request⟩ := by
  -- The mask is written once or not at all.
  rw [beginning, stages]
  simp only [Option.some.injEq, Beginning.mk.injEq, true_and]
  cases taking : run.takes request with
  | true =>
    obtain ⟨use, stepped⟩ := step_of_takes stages taking
    rw [stepped, relay_switch]
    simp [Relay.switch]
  | false =>
    rw [step_of_not_takes stages taking]
    simp

/-- Without a request on top, no request begins. -/
theorem beginning_of_other {run : RelayRun} {frame : RelayFrame} {rest : List RelayFrame}
    (stages : run.stack = frame :: rest) (other : ∀ request, frame ≠ .start request) :
    run.beginning = none := by
  cases frame with
  | start request => exact absurd rfl (other request)
  | _ => simp only [beginning, stages]

/-- A run that clients can bring about, with the history of the requests that began. -/
inductive Reached : RelayRun → List Beginning → Prop where
  /-- Nothing was asked yet, whatever the scripts and the logger are. -/
  | fresh (control : List (List RelayRequest)) (handlers : List (List (List RelayRequest)))
      (logger : Logger) : Reached { control, handlers, logger } []
  /-- A request comes from outside while no other is under way. -/
  | asked {run : RelayRun} {history : List Beginning} (request : RelayRequest)
      (reached : Reached run history) (idle : run.stack = []) :
      Reached (run.push (.start request)) history
  /-- The run makes one step. -/
  | moved {run : RelayRun} {history : List Beginning} (reached : Reached run history) :
      Reached run.step (history ++ run.beginning.toList)

/-- So many steps add the requests that begin within them. -/
theorem Reached.steps {run : RelayRun} {history : List Beginning} (reached : Reached run history)
    (count : Nat) : Reached (run.steps count) (history ++ run.begun count) := by
  -- The first step adds its own request, and the other steps add theirs behind it.
  induction count generalizing run history with
  | zero => simpa [RelayRun.steps, begun] using reached
  | succ count ih =>
    rw [RelayRun.steps, begun, ← List.append_assoc]
    exact ih reached.moved

/-- A request from outside that runs to its end adds the requests that begin meanwhile. -/
theorem Reached.perform {run : RelayRun} {history : List Beginning} (reached : Reached run history)
    (idle : run.stack = []) (request : RelayRequest) :
    let asked := run.push (.start request)
    Reached (run.perform request) (history ++ asked.begun asked.work) :=
  (reached.asked request idle).steps _

/-- What requests from outside bring about, one after another, is reached. -/
theorem Reached.performAll {run : RelayRun} {history : List Beginning}
    (reached : Reached run history) (idle : run.stack = []) (requests : List RelayRequest) :
    ∃ later, Reached (run.performAll requests).2 (history ++ later)
      ∧ (run.performAll requests).2.stack = [] := by
  -- Each request comes to its end before the next one is made.
  induction requests generalizing run history with
  | nil => exact ⟨[], by simpa [RelayRun.performAll] using reached, idle⟩
  | cons request rest ih =>
    obtain ⟨later, after, ended⟩ := ih (reached.perform idle request) (stack_perform run request)
    exact ⟨_ ++ later, by rw [← List.append_assoc]; exact after, ended⟩

/-- What the requests that set the switch say about it and about the handler calls. -/
structure Accounted (run : RelayRun) (switched : List RelayRequest) : Prop where
  /-- The relay is armed exactly if the last request that set the switch is an enabling one. -/
  armed_iff : run.relay.armed = true ↔ switched.getLast? = some .enable
  /-- Right before each interrupt that was let through, the switch was set by an enabling request. -/
  follows : ∀ before after, switched = before ++ .interrupt :: after →
    before.getLast? = some .enable
  /-- An enabling request that is not used up yet stays in hand. -/
  spent : switched.count .interrupt + run.relay.armed.toNat ≤ switched.count .enable
  /-- Each handler call, made or still to come, belongs to an interrupt that was let through. -/
  called : run.handlerCalls + run.stack.count .deliver ≤ switched.count .interrupt

namespace Accounted

variable {run next : RelayRun} {switched : List RelayRequest}

/-- Steps that leave the switch alone and call no handler out of turn keep the account. -/
theorem unswitched (accounted : Accounted run switched) (armed : next.relay.armed = run.relay.armed)
    (calls : next.handlerCalls + next.stack.count .deliver ≤
      run.handlerCalls + run.stack.count .deliver) : Accounted next switched := by
  -- Without a new entry, only the run has moved on.
  refine ⟨by rw [armed]; exact accounted.armed_iff, accounted.follows, ?_, ?_⟩
  · rw [armed]
    exact accounted.spent
  · exact Nat.le_trans calls accounted.called

/-- A request that takes the switch keeps the account, with the request as the last one. -/
theorem append (accounted : Accounted run switched) {request : RelayRequest}
    (taking : run.takes request = true) (armed : next.relay.armed = decide (request = .enable))
    (calls : next.handlerCalls + next.stack.count .deliver ≤
      run.handlerCalls + run.stack.count .deliver + [request].count .interrupt) :
    Accounted next (switched ++ [request]) := by
  obtain ⟨armed_iff, follows, spent, called⟩ := accounted
  -- An interrupt is only let through by a relay that is armed.
  have through : request = .interrupt → run.relay.armed = true := by
    rintro rfl
    exact taking
  refine ⟨?_, ?_, ?_, ?_⟩
  · rw [armed]
    simp
  · intro before after split
    rcases List.eq_nil_or_concat after with rfl | ⟨earlier, last, rfl⟩
    · obtain ⟨same, last⟩ := List.append_inj' split rfl
      rw [← same]
      exact armed_iff.mp (through (List.cons.inj last).1)
    · rw [List.concat_eq_append, ← List.cons_append, ← List.append_assoc] at split
      exact follows before earlier (List.append_inj' split rfl).1
  · rw [armed, List.count_append, List.count_append]
    have covered : switched.count .interrupt ≤ switched.count .enable :=
      Nat.le_trans (Nat.le_add_right ..) spent
    cases request with
    | interrupt =>
      rw [through rfl] at spent
      simpa using spent
    | _ => simpa using covered
  · rw [List.count_append]
    omega

/-- A step keeps the account. -/
theorem step {history : List Beginning} (accounted : Accounted run (switchers history)) :
    Accounted run.step (switchers (history ++ run.beginning.toList)) := by
  -- A request on top may set the switch, and every other stage leaves it alone.
  cases stages : run.stack with
  | nil =>
    have idle : run.step = run := steps_of_rest stages 1
    have none : run.beginning = none := by simp only [beginning, stages]
    rw [idle, none, Option.toList_none, List.append_nil]
    exact accounted
  | cons frame rest =>
    by_cases starting : ∃ request, frame = .start request
    · obtain ⟨request, rfl⟩ := starting
      have delivering : run.stack.count .deliver = rest.count .deliver := by
        rw [stages, List.count_cons_of_ne (by simp)]
      rw [beginning_of_start stages, Option.toList_some]
      cases taking : run.takes request with
      | true =>
        -- The stage that follows delivers exactly if the request is an interrupt.
        rw [switchers_append_switched]
        obtain ⟨use, stepped⟩ := step_of_takes stages taking
        obtain ⟨scripts, followers⟩ := stack_switch
          ({ run with stack := rest, relay := { run.relay with use } } : RelayRun)
          (request = .enable) request.continuation
        have delivers : [request.continuation].count .deliver = [request].count .interrupt := by
          cases request <;> rfl
        refine accounted.append taking ?_ ?_
        · rw [stepped, relay_switch]
          rfl
        · rw [stepped, handlerCalls_switch, followers, count_deliver_scripts,
            ← List.singleton_append, List.count_append, delivers, delivering]
          simp only [handlerCalls]
          omega
      | false =>
        rw [switchers_append_other]
        apply accounted.unswitched
        · rw [step_of_not_takes stages taking]
        · rw [step_of_not_takes stages taking, delivering]
          exact Nat.le_refl _
    · have other : ∀ request, frame ≠ .start request := fun request same => starting ⟨request, same⟩
      obtain ⟨slot, use, relay⟩ := relay_advance { run with stack := rest } other
      rw [beginning_of_other stages other, Option.toList_none, List.append_nil]
      apply accounted.unswitched
      · rw [step_of_stack stages, relay]
      · rw [step_of_stack stages, stages]
        exact handlerCalls_advance { run with stack := rest } other

end Accounted

/-- Whatever clients bring about, the history accounts for it. -/
theorem Reached.accounted {run : RelayRun} {history : List Beginning}
    (reached : Reached run history) : Accounted run (switchers history) := by
  -- The invariant holds before anything was asked, and each step keeps it.
  induction reached with
  | fresh control handlers logger =>
    refine ⟨by simp [switchers], ?_, Nat.le_refl _, Nat.le_refl _⟩
    intro before after split
    simp [switchers] at split
  | asked request reached idle ih =>
    exact ih.unswitched rfl (by rw [stack_push, List.count_cons_of_ne (by simp)]; exact Nat.le_refl _)
  | moved reached ih => exact ih.step

end RelayRun

end CardLink
