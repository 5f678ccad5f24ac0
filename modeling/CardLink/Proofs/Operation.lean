import CardLink.Operation.Step
import CardLink.Proofs.Bus
import CardLink.Proofs.Operation.Tuning.Loop

/-!
Requests to a bare host are made of host calls and log records alone, so they have every property that
those have and that programs inherit from their parts.
-/

namespace CardLink

namespace Bus.Compositional

variable {holds : ∀ {α : Type}, Bus α → Prop} (composes : Compositional holds)

include composes

/-- A transfer is a call, and a record of its failure. -/
theorem of_execute (asked : Transfer) : holds (execute asked) := by
  -- Only a failure of the host leaves a record.
  apply composes.bind (composes.of_request _)
  intro reply
  split
  · exact composes.of_pure _
  · exact composes.bind (composes.of_log _ _) fun _ => composes.of_pure _

theorem of_issue (command : Command) : holds (issue command).run := by
  apply composes.bind_except (composes.lift (composes.of_execute _))
  intro reply
  split <;> exact composes.of_pure _

theorem of_issueChecked (command : Command) : holds (issueChecked command).run := by
  -- A status that flags a fault is logged before it is reported.
  apply composes.bind_except (composes.of_issue command)
  intro response
  unfold acceptStatus
  dsimp only
  split
  · exact composes.bind_except (composes.lift (composes.of_log _ _)) fun _ => composes.of_pure _
  · exact composes.of_pure _

theorem of_issueUnchecked (command : Command) : holds (issueUnchecked command).run :=
  composes.bind_except (composes.of_issue command) fun _ => composes.of_pure _

section Lift

variable {α : Type}

theorem asking (asked : HostCall) {rest : asked.Reply → CardProgram α}
    (others : ∀ reply, holds (rest reply).run) :
    holds (monadLift (Bus.request asked) >>= rest : CardProgram α).run :=
  composes.bind_except (composes.lift (composes.of_request asked)) others

theorem logging (level : LogLevel) (message : String) {rest : Unit → CardProgram α}
    (others : ∀ done, holds (rest done).run) :
    holds (monadLift (Bus.log level message) >>= rest : CardProgram α).run :=
  composes.bind_except (composes.lift (composes.of_log level message)) others

end Lift

/-- The handshake over the data lines consists of calls and records. -/
theorem of_switchVoltage : holds switchVoltage.run := by
  have passed {result : Except CardError Unit} : holds (ExceptT.mk (pure result)).run :=
    composes.of_pure result
  -- Two looks at the data lines end the handshake early or let it go on.
  unfold switchVoltage
  refine composes.bind_except (composes.of_issueUnchecked _) fun _ => ?_
  refine composes.asking _ fun _ => composes.asking _ fun before => ?_
  split
  · exact composes.logging _ _ fun _ => passed
  · refine composes.asking _ fun _ => composes.asking _ fun _ => composes.asking _ fun _ => ?_
    refine composes.asking _ fun _ => composes.asking _ fun _ => composes.asking _ fun _ => ?_
    refine composes.asking _ fun after => ?_
    split
    · exact passed
    · exact composes.logging _ _ fun _ => passed

section Tuning

variable (index : UInt8) (blockSize start step : UInt32)

theorem of_tuningWindow (left : Nat) (buffer : Bytes) :
    holds (tuningWindow index blockSize left buffer) := by
  -- Each command of a window waits and asks for the state of tuning before the next one.
  induction left generalizing buffer with
  | zero => exact composes.of_pure _
  | succ left ih =>
    apply composes.bind (composes.of_execute _)
    intro reply
    split
    · exact composes.of_pure _
    · refine composes.bind (composes.of_request _) fun _ => ?_
      refine composes.bind (composes.of_request _) fun status => ?_
      split
      · exact ih _
      · exact composes.of_pure _

theorem of_tuningWindows : holds (tuningWindows index blockSize start step) := by
  have fresh (buffer : Bytes) : holds (freshWindow index blockSize start step buffer) :=
    composes.bind (composes.of_request _) fun _ => composes.of_tuningWindow index blockSize _ buffer
  -- The second window is another fresh one, behind a record.
  apply composes.bind (fresh _)
  intro first
  split
  · split
    · refine composes.bind (composes.of_log _ _) fun _ => ?_
      exact composes.bind (fresh _) fun _ => composes.of_pure _
    · exact composes.of_pure _
  · exact composes.of_pure _
  · exact composes.of_pure _

theorem of_concludeTuning (last : WindowEnd) : holds (concludeTuning start step last).run := by
  have passed {result : Except CardError Unit} : holds (ExceptT.mk (pure result)).run :=
    composes.of_pure result
  cases last with
  | aborted cause => exact composes.asking _ fun _ => passed
  | exhausted => exact composes.logging _ _ fun _ => composes.asking _ fun _ => passed
  | settled status =>
    refine composes.asking _ fun status => ?_
    split
    · exact passed
    · exact composes.logging _ _ fun _ => passed

theorem of_executeTuning : holds (executeTuning index blockSize start step).run := by
  by_cases fits : blockSize.toNat = 0 ∨ blockSize.toNat > maxTuningBlockSize
  · -- A block of an impossible size is refused before the host is asked for anything.
    rw [executeTuning, if_pos fits]
    exact composes.of_pure _
  · rw [executeTuning_eq index blockSize start step fits]
    exact composes.bind_except (composes.lift (composes.of_tuningWindows index blockSize start step))
      fun last => composes.of_concludeTuning start step last

end Tuning

theorem of_executeRaw (command : Command) (data : Option DataRequest) :
    holds (executeRaw command data) := by
  unfold executeRaw
  split
  · exact composes.bind (composes.of_execute _) fun _ => composes.of_pure _
  · split
    · -- Buffers that fit no list never reach the host.
      exact composes.of_pure _
    · exact composes.bind (composes.of_execute _) fun _ => composes.of_pure _

theorem of_finished {program : CardProgram Unit} (has : holds program.run) : holds program.finished :=
  composes.bind has fun _ => composes.of_pure _

/-- Every request to a bare host has the property. -/
theorem of_hostStep (step : HostStep) : holds step.program := by
  have checked (command : Command) :
      holds (issueChecked command >>= fun _ => pure () : CardProgram Unit).run :=
    composes.bind_except (composes.of_issueChecked command) fun _ => composes.of_pure _
  cases step with
  | selectCard card select => exact composes.of_finished (checked _)
  | announceApplication card =>
    apply composes.of_finished
    refine composes.bind_except (composes.of_issueChecked _) fun status => ?_
    split
    · exact composes.of_pure _
    · exact composes.logging _ _ fun _ => composes.of_pure _
  | setBlockCount count => exact composes.of_finished (checked _)
  | setBlockSize size => exact composes.of_finished (checked _)
  | goIdle => exact composes.of_finished (composes.of_issueUnchecked _)
  | goPreIdle => exact composes.of_finished (composes.of_issueUnchecked _)
  | setCardInactive card => exact composes.of_finished (composes.of_issueUnchecked _)
  | switchVoltage => exact composes.of_finished composes.of_switchVoltage
  | executeTuning index blockSize start step =>
    exact composes.of_finished (composes.of_executeTuning index blockSize start step)
  | execute command data => exact composes.of_executeRaw command data

end Bus.Compositional

end CardLink
