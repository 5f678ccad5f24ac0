import CardLink.BusLaws
import CardLink.Operation.Tuning

/-!
The loop of a tuning told by its windows: the commands between one start of the count and the next. There
are two windows at most, each a recursion on the commands that are left in it.
-/

namespace CardLink

/-- How a window of tuning commands ended. -/
inductive WindowEnd where
  /-- A transfer failed. -/
  | aborted (cause : CardError)
  /-- All commands are used up and the host wants more. -/
  | exhausted
  /-- The host wants no more blocks, and reported this state. -/
  | settled (status : TuningStatus)
  deriving DecidableEq

section Windows

variable (index : UInt8) (blockSize start step : UInt32)

/-- Issues tuning commands, at most as many as are left: how that ends, and the buffer then. -/
def tuningWindow : Nat → Bytes → Bus (WindowEnd × Bytes)
  | 0, buffer => return (.exhausted, buffer)
  | left + 1, buffer => do
    let reply ← execute (tuningTransfer index blockSize buffer)
    let filled := overwrite buffer 0 reply.memory
    match reply.outcome with
    | .error cause => return (.aborted cause, filled)
    | .ok () =>
      Bus.request (.delay tuningPollDelay)
      let status ← Bus.request .tuningStatus
      if status.active then tuningWindow left filled else return (.settled status, filled)

/-- Starts a window with a fresh count of commands. -/
def freshWindow (buffer : Bytes) : Bus (WindowEnd × Bytes) := do
  Bus.request (.tune start step true)
  tuningWindow index blockSize tuningCommandLimit buffer

/-- Runs the first window and, if that one settled on an error, a second and last one. -/
def tuningWindows : Bus WindowEnd := do
  let first ← freshWindow index blockSize start step (List.replicate maxTuningBlockSize 0)
  match first.1 with
  | .settled status =>
    if status.failed then
      Bus.log .trace ("SDMMC: tuning error, restarting window at " ++ decimal start.toNat)
      let second ← freshWindow index blockSize start step first.2
      return second.1
    else return first.1
  | .aborted _ | .exhausted => return first.1

/-- What follows the last window: tuning is switched off where it did not settle, or looked at again. -/
def concludeTuning (last : WindowEnd) : CardProgram Unit :=
  match last with
  | .aborted cause => do
    Bus.request (.tune start step false)
    throw cause
  | .exhausted => do
    Bus.log .debug ("SDMMC: tuning still active after " ++ decimal tuningCommandLimit ++ " commands")
    Bus.request (.tune start step false)
    throw .tuningFailed
  | .settled _ => do
    let status ← Bus.request .tuningStatus
    if status.sampling then return ()
    else
      Bus.log .debug "SDMMC: tuning found no sampling point"
      throw .tuningFailed

/-- What the loop does behind a window, given what it does in another one. -/
def afterWindow (restart : Bool) (again : Bytes → CardProgram Unit) (ended : WindowEnd × Bytes) :
    CardProgram Unit :=
  match ended.1 with
  | .aborted _ | .exhausted => concludeTuning start step ended.1
  | .settled status =>
    if status.failed && restart then do
      Bus.log .trace ("SDMMC: tuning error, restarting window at " ++ decimal start.toNat)
      Bus.request (.tune start step true)
      again ended.2
    else return ()

/-- The loop runs the window of the commands that are left, and then what follows that. -/
theorem tuningLoop_eq (buffer : Bytes) (restart : Bool) {commands left : Nat}
    (count : commands + left = tuningCommandLimit) :
    tuningLoop index blockSize start step buffer restart commands = (do
      let ended ← tuningWindow index blockSize left buffer
      afterWindow start step restart
        (fun filled => tuningLoop index blockSize start step filled false 0) ended) := by
  induction left generalizing buffer commands with
  | zero =>
    have exhausted : tuningCommandLimit ≤ commands := Nat.le_of_eq count.symm
    rw [tuningLoop, if_pos exhausted, tuningWindow]
    rfl
  | succ left ih =>
    have within : ¬ tuningCommandLimit ≤ commands := by omega
    rw [tuningLoop, if_neg within, tuningWindow]
    -- Both sides begin with the same command, and go on as it came out.
    apply ExceptT.ext
    simp only [Bus.bind_monadLift, bind_assoc]
    refine congrArg (execute _ >>= ·) (funext fun reply => ?_)
    cases reply.outcome with
    | error cause => rfl
    | ok done =>
      simp only [Bus.bind_monadLift, bind_assoc]
      refine congrArg (Bus.request _ >>= ·) (funext fun waited => ?_)
      refine congrArg (Bus.request _ >>= ·) (funext fun status => ?_)
      cases active : status.active with
      | true =>
        simp only [if_true]
        rw [ih _ (by omega), Bus.bind_monadLift]
      | false =>
        simp only [Bool.false_eq_true, if_false]
        rfl

/-- Where no other window follows, the loop and the last look conclude with the window. -/
theorem afterWindow_last {restart : Bool} {ended : WindowEnd × Bytes}
    (last : ∀ status, ended.1 = .settled status → (status.failed && restart) = false)
    (again : Bytes → CardProgram Unit) (status : TuningStatus) :
    (do
      afterWindow start step restart again ended
      concludeTuning start step (.settled status)) = concludeTuning start step ended.1 := by
  obtain ⟨ending, buffer⟩ := ended
  cases ending with
  | aborted cause => rfl
  | exhausted =>
    -- The failure behind the record ends the program, and no look follows.
    simp only [afterWindow, concludeTuning, bind_assoc]
    rfl
  | settled other =>
    rw [afterWindow]
    simp only [last other rfl]
    rfl

/-- Tuning with a block that fits runs its windows, and concludes with the last one. -/
theorem executeTuning_eq (fits : ¬ (blockSize.toNat = 0 ∨ blockSize.toNat > maxTuningBlockSize)) :
    executeTuning index blockSize start step = (do
      let last ← tuningWindows index blockSize start step
      concludeTuning start step last) := by
  rw [executeTuning, if_neg fits, tuningLoop_eq index blockSize start step _ true (Nat.zero_add _)]
  apply ExceptT.ext
  simp only [tuningWindows, freshWindow, Bus.bind_monadLift, bind_assoc]
  refine congrArg (Bus.request _ >>= ·) (funext fun enabled => ?_)
  refine congrArg (tuningWindow _ _ _ _ >>= ·) (funext fun first => ?_)
  -- How the first window ended decides whether it is the last one.
  have conclude {restart : Bool} {ended : WindowEnd × Bytes}
      (last : ∀ status, ended.1 = .settled status → (status.failed && restart) = false)
      (again : Bytes → CardProgram Unit) :=
    congrArg ExceptT.run (afterWindow_last start step last again ⟨0⟩)
  obtain ⟨ending, buffer⟩ := first
  cases ending with
  | aborted cause => exact conclude (fun _ same => by cases same) _
  | exhausted => exact conclude (fun _ same => by cases same) _
  | settled status =>
    cases failed : status.failed with
    | false =>
      simp only [failed, Bool.false_eq_true, if_false]
      exact conclude (fun _ same => by cases same; rw [failed]; rfl) _
    | true =>
      simp only [afterWindow, failed, Bool.and_true, if_true, Bus.bind_monadLift, bind_assoc]
      refine congrArg (Bus.log _ _ >>= ·) (funext fun noted => ?_)
      refine congrArg (Bus.request _ >>= ·) (funext fun enabled => ?_)
      rw [tuningLoop_eq index blockSize start step _ false (Nat.zero_add _)]
      simp only [Bus.bind_monadLift, bind_assoc, pure_bind]
      refine congrArg (tuningWindow _ _ _ _ >>= ·) (funext fun second => ?_)
      exact conclude (fun _ _ => Bool.and_false _) _

end Windows

end CardLink
