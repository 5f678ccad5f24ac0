import CardLink.Relay.Run

/-! Each step of a relay run uses up work, so a run comes to rest within the steps it is given. -/

namespace CardLink

namespace RelayRun

/-- A new stage adds its own work. -/
@[simp] theorem work_push (run : RelayRun) (frame : RelayFrame) :
    (run.push frame).work = run.work + frame.work := by
  -- Only the stack changes, by one stage.
  simp only [push, work, stackWork, List.foldr_cons]
  omega

/-- Seeing an event is no work. -/
@[simp] theorem work_see (run : RelayRun) (event : RelayEvent) : (run.see event).work = run.work := rfl

/-- Answering is no work. -/
@[simp] theorem work_reply (run : RelayRun) (answer : RelayAnswer) :
    (run.reply answer).work = run.work := rfl

/-- Logging is no work. -/
@[simp] theorem work_note (run : RelayRun) (level : LogLevel) (message : String) :
    (run.note level message).work = run.work := rfl

/-- Changing the relay is no work. -/
@[simp] theorem work_relay (run : RelayRun) (relay : Relay) :
    ({ run with relay } : RelayRun).work = run.work := rfl

/-- Setting the switch costs the stage that follows, since the script of the mask was counted before. -/
@[simp] theorem work_switch (run : RelayRun) (on : Bool) (continuation : RelayFrame) :
    (run.switch on continuation).work = run.work + continuation.work := by
  -- A script that moves from the control to the stack keeps its work.
  cases scripts : run.control with
  | nil =>
    simp only [switch, scripts, work_push]
    simp only [work, see, scripts]
  | cons script rest =>
    have scriptFrame : (RelayFrame.script script).work = scriptWork script := rfl
    simp only [switch, scripts, work_push, scriptFrame]
    simp only [work, push, see, scripts, stackWork, scriptsWork, List.foldr_cons]
    omega

/-- Taking one script away from a handler takes its work away from the sum over all handlers. -/
theorem handlerWork_set {handlers : List (List (List RelayRequest))} {place : Nat}
    {script : List RelayRequest} {rest : List (List RelayRequest)}
    (found : handlers[place]? = some (script :: rest)) :
    handlersWork (handlers.set place rest) + scriptWork script = handlersWork handlers := by
  -- The scripts of all other handlers are counted on both sides.
  induction handlers generalizing place with
  | nil => simp at found
  | cons scripts others ih =>
    cases place with
    | zero =>
      simp only [List.getElem?_cons_zero, Option.some.injEq] at found
      subst found
      simp only [List.set_cons_zero, handlersWork, scriptsWork, List.foldr_cons]
      omega
    | succ place =>
      simp only [List.getElem?_cons_succ] at found
      have tail := ih found
      simp only [handlersWork] at tail
      simp only [List.set_cons_succ, handlersWork, List.foldr_cons]
      omega

/-- Calling a handler costs its stage, since its script was counted before. -/
@[simp] theorem work_callHandler (run : RelayRun) (registration : Registration) :
    (run.callHandler registration).work = run.work + 1 := by
  -- A script that moves from the handler to the stack keeps its work.
  unfold callHandler
  split
  · rename_i script rest found
    have moved := handlerWork_set found
    simp only [work_push, RelayFrame.work]
    simp only [work, push, see, stackWork, List.foldr_cons, RelayFrame.work]
    omega
  · simp [RelayFrame.work]

/-- Going on with a stage costs less than the stage was counted for. -/
theorem work_advance (run : RelayRun) (frame : RelayFrame) :
    (run.advance frame).work < run.work + frame.work := by
  -- Each stage is counted for more than the stages that it leads to.
  cases frame with
  | start request =>
    cases request with
    | register registration =>
      simp only [advance, begin, change]
      split <;> simp [RelayFrame.work]
    | unregister =>
      simp only [advance, begin, change]
      split <;> simp [RelayFrame.work]
    | enable => simp [advance, begin, RelayFrame.work]
    | disable => simp [advance, begin, RelayFrame.work]
    | interrupt =>
      simp only [advance, begin]
      split <;> simp [RelayFrame.work]
    | isEnabled => simp [advance, begin, RelayFrame.work]
  | script requests =>
    cases requests with
    | nil => simp [advance, RelayFrame.work, scriptWork]
    | cons request rest =>
      simp only [advance, work_push, RelayFrame.work, scriptWork, List.length_cons]
      omega
  | report request => simp [advance, RelayFrame.work]
  | install content =>
    simp only [advance, installed]
    cases content <;> simp [RelayFrame.work]
  | settle => simp [advance, RelayFrame.work]
  | deliver =>
    simp only [advance, hand]
    split <;> simp [RelayFrame.work]
  | handler registration => simp [advance, returned, RelayFrame.work]

/-- A step of a run that is not at rest uses up work. -/
theorem work_step_lt {run : RelayRun} (busy : run.stack ≠ []) : run.step.work < run.work := by
  -- The stage on top leaves the stack and goes on.
  cases stages : run.stack with
  | nil => exact absurd stages busy
  | cons frame rest =>
    have advanced := work_advance { run with stack := rest } frame
    have counted : run.work = ({ run with stack := rest } : RelayRun).work + frame.work := by
      simp only [work, stages, stackWork, List.foldr_cons]
      omega
    simpa only [step, stages, counted] using advanced

/-- A run at rest stays as it is. -/
theorem steps_of_rest {run : RelayRun} (rest : run.stack = []) (count : Nat) :
    run.steps count = run := by
  -- Without a stage there is nothing to go on with.
  induction count with
  | zero => rfl
  | succ count ih => simpa only [steps, step, rest] using ih

/-- As many steps as there is work bring a run to rest. -/
theorem stack_steps {run : RelayRun} {count : Nat} (enough : run.work ≤ count) :
    (run.steps count).stack = [] := by
  -- Work goes down with every step, and a run without work has no stage.
  induction count generalizing run with
  | zero =>
    cases stages : run.stack with
    | nil => simpa only [steps] using stages
    | cons frame rest =>
      have less := @work_step_lt run (by simp [stages])
      omega
  | succ count ih =>
    by_cases idle : run.stack = []
    · rw [steps_of_rest idle]
      exact idle
    · have less := work_step_lt idle
      simpa only [steps] using @ih run.step (by omega)

/-- A finished run is at rest. -/
theorem stack_finish (run : RelayRun) : run.finish.stack = [] :=
  -- The steps it is given are its own work.
  stack_steps (Nat.le_refl _)

/-- A request from outside leaves no stage under way. -/
theorem stack_perform (run : RelayRun) (request : RelayRequest) :
    (run.perform request).stack = [] :=
  -- The request is one more stage of a run that is then finished.
  stack_finish _

end RelayRun

end CardLink
