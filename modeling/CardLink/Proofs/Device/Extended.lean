import CardLink.Device.Block
import CardLink.Proofs.Device
import CardLink.Proofs.Response

/-! One I/O command is one call to the host, and its result is read off the answer alone. -/

namespace CardLink

/-- The host reported a failure, or the card flagged one. -/
def TransferReply.failed (reply : TransferReply) : Bool :=
  match reply.outcome with
  | .error _ => true
  | .ok () => ioFaultBits.any (bitSet reply.response.word0)

/-- The result that an answer leads to. -/
def TransferReply.verdict (reply : TransferReply) : Except DeviceError Unit :=
  if reply.failed then .error (.bus .transferFailed) else .ok ()

/-- A transfer that failed, by the host or by the card. -/
def Exchange.failed : Exchange → Bool
  | ⟨.transfer _, reply⟩ => reply.failed
  | _ => false

/-- The memory of the data buffer of a transfer after it. -/
def Exchange.memory : Exchange → Bytes
  | ⟨.transfer _, reply⟩ => reply.memory
  | _ => []

/-- What follows the answer to an extended transfer: a record of what went wrong, and the result. -/
def concluded (command : Command) (reply : TransferReply) : Bus (Except DeviceError Unit) :=
  match reply.outcome with
  | .ok () => do
    let judged ← (acceptIoStatus command reply.response).run
    return judged.map fun _ => ()
  | .error cause => do
    Bus.log .debug ("SDMMC: CMD" ++ decimal command.index.toNat
      ++ " arg=" ++ hexadecimal 8 command.argument.toNat ++ " failed: " ++ cause.message)
    return .error (.bus .transferFailed)

/-- An extended transfer calls the host, and then only looks at the answer. -/
theorem moveExtended_eq (access : ExtendedAccess) (data : DataPhase) :
    moveExtended access data = do
      let reply ← Bus.request (.transfer { command := .ioExtended access, data := some data })
      let result ← concluded (.ioExtended access) reply
      return (result, reply.memory) := by
  -- The failure of the host is settled before the response is looked at, and ends the transfer.
  simp only [moveExtended, execute, concluded, bind_assoc]
  congr 1
  funext reply
  cases outcome : reply.outcome <;> simp [outcome]

/-- The transfer that a register access issues. -/
def DirectAccess.transfer (access : DirectAccess) : Transfer := { command := .ioDirect access }

/-- The response to a command without data counts if the host carried the command out. -/
theorem issue_eq (command : Command) :
    (issue command).run = (do
      let reply ← execute { command }
      return reply.outcome.map fun _ => reply.response) := by
  rw [issue, Bus.bind_monadLift]
  refine bind_congr fun reply => ?_
  cases reply.outcome <;> rfl

/-- A register access issues its transfer, and then only looks at the answer. -/
theorem accessRegister_eq (access : DirectAccess) :
    (accessRegister access).run = (do
      let reply ← Bus.request (.transfer access.transfer)
      let result ← concluded (.ioDirect access) reply
      return result.map fun _ => IoStatus.data ⟨reply.response.word0⟩) := by
  have adapted {α : Type} (program : CardProgram α) :
      (program.adapt DeviceError.bus).run = Except.mapError DeviceError.bus <$> program.run := rfl
  -- Both sides begin with the same call, and the answer decides between the same ends.
  simp only [accessRegister, ExceptT.run_bind, adapted, issue_eq, execute, DirectAccess.transfer,
    concluded, bind_assoc, bind_map_left, pure_bind]
  refine bind_congr fun reply => ?_
  obtain ⟨outcome, response, memory, moved⟩ := reply
  cases outcome with
  | error cause =>
    simp only [bind_assoc, pure_bind]
    rfl
  | ok done =>
    -- The value is read off the very word that was judged.
    simp only [bind_assoc, pure_bind, Except.map, Except.mapError, acceptIoStatus]
    split
    · simp only [Bus.bind_monadLift, bind_assoc]
      rfl
    · rfl

section Run

variable {σ : Type} (model : HostModel σ) (state : BusState σ)

/-- Judging an I/O status calls no host, leaves host and lock alone, and looks at the fault bits. -/
theorem run_acceptIoStatus (command : Command) (response : Response) :
    let judged := Bus.run model (acceptIoStatus command response).run state
    judged.value = (if ioFaultBits.any (bitSet response.word0) then .error (.bus .transferFailed)
      else .ok ⟨response.word0⟩) ∧ judged.state.host = state.host
      ∧ judged.state.locked = state.locked ∧ judged.exchanges = [] := by
  -- A fault is logged before it is reported, and a log record is no exchange.
  have faulty := IoStatus.faulty_eq ⟨response.word0⟩
  simp only at faulty
  simp only [acceptIoStatus, ← faulty]
  cases flagged : IoStatus.faulty ⟨response.word0⟩ with
  | false => exact ⟨rfl, rfl, rfl, rfl⟩
  | true =>
    simp only [if_true, Bus.run_bind_lift, Bus.run_log]
    exact ⟨rfl, rfl, rfl, rfl⟩

/-- Looking at an answer calls no host, leaves host and lock alone, and ends with the verdict. -/
theorem run_concluded (command : Command) (reply : TransferReply) :
    let ended := (concluded command reply).run model state
    ended.value = reply.verdict ∧ ended.state.host = state.host
      ∧ ended.state.locked = state.locked ∧ ended.exchanges = [] := by
  -- A failure of the host is logged, and otherwise the status word is judged.
  cases outcome : reply.outcome with
  | error cause =>
    simp only [concluded, TransferReply.verdict, TransferReply.failed, outcome, Bus.run_bind,
      Bus.run_log]
    exact ⟨rfl, rfl, rfl, rfl⟩
  | ok done =>
    obtain ⟨value, host, locked, exchanges⟩ :=
      run_acceptIoStatus model state command reply.response
    simp only [concluded, TransferReply.verdict, TransferReply.failed, outcome, Bus.run_bind,
      Bus.run_pure, value, host, locked, exchanges, List.append_nil, and_self, and_true]
    split <;> rfl

/-- A register access is a single call, and its value is read off the answer. -/
theorem run_accessRegister (access : DirectAccess) :
    let accessed := Bus.run model (accessRegister access).run state
    let answered := model.answer (.transfer access.transfer) state.host
    accessed.value = answered.1.verdict.map (fun _ => IoStatus.data ⟨answered.1.response.word0⟩)
      ∧ accessed.state.host = answered.2 ∧ accessed.state.locked = state.locked
      ∧ accessed.exchanges = [⟨.transfer access.transfer, answered.1⟩] := by
  -- The answer is looked at on the state that the host has reached by then.
  let answered := model.answer (.transfer access.transfer) state.host
  obtain ⟨value, host, locked, exchanges⟩ :=
    run_concluded model { state with host := answered.2 } (.ioDirect access) answered.1
  rw [accessRegister_eq, Bus.run_bind]
  simp only [Bus.run_bind, Bus.run_pure, List.append_nil]
  exact ⟨congrArg (Except.map _) value, host, locked, congrArg (List.cons _) exchanges⟩

variable (access : ExtendedAccess) (data : DataPhase)

/-- The transfer that an extended access issues. -/
def ExtendedAccess.transfer : Transfer := { command := .ioExtended access, data := some data }

/-- The answer of the host to an extended transfer, and the host after it. -/
def extendedAnswer : TransferReply × σ :=
  model.answer (.transfer (access.transfer data)) state.host

/-- An extended transfer runs as the call to the host, followed by a look at its answer. -/
theorem run_moveExtended_eq :
    (moveExtended access data).run model state =
      let answered := extendedAnswer model state access data
      let ended :=
        (concluded (.ioExtended access) answered.1).run model { state with host := answered.2 }
      ⟨(ended.value, answered.1.memory), ended.state,
        ⟨.transfer (access.transfer data), answered.1⟩ :: ended.exchanges, ended.lines⟩ := by
  rw [moveExtended_eq]
  -- A request in front of a program is a program that begins with this call.
  change (Bus.call (.transfer (access.transfer data)) fun reply =>
    concluded (.ioExtended access) reply >>= fun result => pure (result, reply.memory)).run model
      state = _
  simp only [Bus.run, Bus.run_bind, Bus.run_pure, List.append_nil]
  rfl

/-- An extended transfer is a single call, and its result and memory are those of the answer. -/
theorem run_moveExtended :
    let moved := (moveExtended access data).run model state
    let answered := extendedAnswer model state access data
    moved.value = (answered.1.verdict, answered.1.memory) ∧ moved.state.host = answered.2
      ∧ moved.state.locked = state.locked
      ∧ moved.exchanges = [⟨.transfer (access.transfer data), answered.1⟩] := by
  -- The answer is looked at on the state that the host has reached by then.
  let answered := extendedAnswer model state access data
  obtain ⟨value, host, locked, exchanges⟩ :=
    run_concluded model { state with host := answered.2 } (.ioExtended access) answered.1
  rw [run_moveExtended_eq]
  exact ⟨congrArg (·, answered.1.memory) value, host, locked, congrArg (List.cons _) exchanges⟩

end Run

end CardLink
