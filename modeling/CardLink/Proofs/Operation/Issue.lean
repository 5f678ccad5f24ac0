import CardLink.BusLaws
import CardLink.Operation

/-! One command is one call to the host, and what it comes to is read off the answer. -/

namespace CardLink

/-- The host carried the transfer out. -/
def TransferReply.completed (reply : TransferReply) : Bool :=
  match reply.outcome with
  | .ok () => true
  | .error _ => false

section Run

variable {σ : Type} (model : HostModel σ) (state : BusState σ)

/-- A transfer is one call, and whatever the host fails with is reported as one failure. -/
theorem run_execute (asked : Transfer) :
    let ran := (execute asked).run model state
    let answered := model.answer (.transfer asked) state.host
    ran.value = { answered.1 with
        outcome := if answered.1.completed then .ok () else .error .transferFailed }
      ∧ ran.state.host = answered.2 ∧ ran.exchanges = [⟨.transfer asked, answered.1⟩] := by
  -- Only a failure leaves a record, which is no exchange.
  dsimp only
  rw [execute, Bus.run_bind, Bus.run_request]
  generalize model.answer (.transfer asked) state.host = answered
  obtain ⟨⟨outcome, response, memory, moved⟩, after⟩ := answered
  cases outcome with
  | ok done => exact ⟨rfl, rfl, rfl⟩
  | error cause =>
    simp only [Bus.run_bind, Bus.run_log]
    exact ⟨rfl, rfl, rfl⟩

/-- So does a command without data, which hands on the response words as they are. -/
theorem run_issue (command : Command) :
    let ran := Bus.run model (issue command).run state
    let answered := model.answer (.transfer { command }) state.host
    ran.value = (if answered.1.completed then .ok answered.1.response else .error .transferFailed)
      ∧ ran.state.host = answered.2
      ∧ ran.exchanges = [⟨.transfer { command }, answered.1⟩] := by
  obtain ⟨value, host, exchanges⟩ := run_execute model state { command }
  rw [issue, Bus.run_bind_lift]
  simp only [value, exchanges]
  cases (model.answer (.transfer { command }) state.host).1.completed with
  | true => exact ⟨rfl, host, rfl⟩
  | false => exact ⟨rfl, host, rfl⟩

/-- A command whose response is ignored comes to what its transfer comes to. -/
theorem run_issueUnchecked (command : Command) :
    let ran := Bus.run model (issueUnchecked command).run state
    let answered := model.answer (.transfer { command }) state.host
    ran.value = (if answered.1.completed then .ok () else .error .transferFailed)
      ∧ ran.state.host = answered.2
      ∧ ran.exchanges = [⟨.transfer { command }, answered.1⟩] := by
  obtain ⟨value, host, exchanges⟩ := run_issue model state command
  rw [issueUnchecked, Bus.run_bind_except]
  simp only [value, exchanges]
  cases (model.answer (.transfer { command }) state.host).1.completed with
  | true => exact ⟨rfl, host, rfl⟩
  | false => exact ⟨rfl, host, rfl⟩

/-- A command whose status is checked fails with its transfer, and with a fault that the card flags. -/
theorem run_issueChecked (command : Command) :
    let ran := Bus.run model (issueChecked command).run state
    let answered := model.answer (.transfer { command }) state.host
    let status : CardStatus := ⟨answered.1.response.word0⟩
    ran.value = (if answered.1.completed && !status.faulty then .ok status else .error .transferFailed)
      ∧ ran.state.host = answered.2
      ∧ ran.exchanges = [⟨.transfer { command }, answered.1⟩] := by
  obtain ⟨value, host, exchanges⟩ := run_issue model state command
  rw [issueChecked, Bus.run_bind_except]
  simp only [value, exchanges]
  cases (model.answer (.transfer { command }) state.host).1.completed with
  | false => exact ⟨rfl, host, rfl⟩
  | true =>
    -- A fault is logged before it is reported, and a record is no exchange.
    simp only [if_true, Bool.true_and, acceptStatus]
    cases CardStatus.faulty ⟨(model.answer (.transfer { command }) state.host).1.response.word0⟩ with
    | true =>
      simp only [if_true, Bus.run_bind_lift, Bus.run_log]
      exact ⟨rfl, host, rfl⟩
    | false => exact ⟨rfl, host, rfl⟩

end Run

end CardLink
