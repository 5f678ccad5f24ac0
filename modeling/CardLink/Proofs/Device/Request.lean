import CardLink.Device.Step
import CardLink.Proofs.Device.Spread

/-!
A request to a device in three parts: checks in front of the lock, a body that runs with the lock held,
and the answer that it gets if it is refused.
-/

namespace CardLink

/-- The failure in an answer. -/
def DeviceAnswer.failure? : DeviceAnswer → Option DeviceError
  | value (.error cause) | finished (.error cause) | buffer (.error cause) _
  | buffers (.error cause) _ | bus (.error cause) _ => some cause
  | value (.ok _) | finished (.ok _) | buffer (.ok _) _ | buffers (.ok _) _ | bus (.ok _) _ => none

section Failure

variable {α : Type} {cause : DeviceError}

@[simp] theorem DeviceAnswer.failure?_value (result : Except DeviceError UInt8) :
    (DeviceAnswer.value result).failure? = some cause ↔ result = .error cause := by
  cases result <;> simp [failure?]

@[simp] theorem DeviceAnswer.failure?_finished (result : Except DeviceError Unit) :
    (DeviceAnswer.finished result).failure? = some cause ↔ result = .error cause := by
  cases result <;> simp [failure?]

@[simp] theorem DeviceAnswer.failure?_buffer (result : Except DeviceError Unit) (after : Bytes) :
    (DeviceAnswer.buffer result after).failure? = some cause ↔ result = .error cause := by
  cases result <;> simp [failure?]

@[simp] theorem DeviceAnswer.failure?_buffers (result : Except DeviceError Unit) (after : List Bytes) :
    (DeviceAnswer.buffers result after).failure? = some cause ↔ result = .error cause := by
  cases result <;> simp [failure?]

@[simp] theorem map_eq_error {β : Type} (change : α → β) (result : Except DeviceError α) :
    result.map change = .error cause ↔ result = .error cause := by
  cases result <;> simp [Except.map]

end Failure

namespace DeviceStep

/-- The function and the address that a request for registers names. -/
def target? : DeviceStep → Option (UInt8 × UInt32)
  | readRegister function address | writeRegister function address _
  | writeReadRegister function address _ | readBlocks function address _ _ _
  | writeBlocks function address _ _ _ | readSpread function address _ _
  | writeSpread function address _ _ => some (function, address)
  | withBus _ _ _ => none

/-- The answer to a request that was refused: every buffer is as it was. -/
def refused (cause : DeviceError) : DeviceStep → DeviceAnswer
  | readRegister _ _ | writeReadRegister _ _ _ => .value (.error cause)
  | writeRegister _ _ _ | writeBlocks _ _ _ _ _ | writeSpread _ _ _ _ => .finished (.error cause)
  | readBlocks _ _ _ _ buffer => .buffer (.error cause) buffer
  | readSpread _ _ _ buffers => .buffers (.error cause) buffers
  | withBus _ _ _ => .bus (.error cause) []

/-- The answer to a refused request tells the reason. -/
@[simp] theorem failure?_refused (step : DeviceStep) (cause : DeviceError) :
    (step.refused cause).failure? = some cause := by
  cases step <;> rfl

/-- The checks of a request in front of the lock. -/
def precheck (config : DeviceConfig) : DeviceStep → Except DeviceError Unit
  | readRegister function address | writeRegister function address _
  | writeReadRegister function address _ | readSpread function address _ _
  | writeSpread function address _ _ => checkTarget function address
  | readBlocks function address blockCount blockSize buffer
  | writeBlocks function address blockCount blockSize buffer =>
    (blockLength config function address blockCount blockSize buffer.length).map fun _ => ()
  | withBus _ _ _ => .ok ()

/-- What a request does while it holds the lock. -/
def body (config : DeviceConfig) : DeviceStep → Bus DeviceAnswer
  | readRegister function address =>
    DeviceAnswer.value <$> (accessRegister ⟨false, function, address, false, 0⟩).run
  | writeRegister function address value =>
    (fun result => .finished (result.map fun _ => ())) <$>
      (accessRegister ⟨true, function, address, false, value⟩).run
  | writeReadRegister function address value =>
    DeviceAnswer.value <$> (accessRegister ⟨true, function, address, true, value⟩).run
  | readBlocks function address blockCount blockSize buffer =>
    let length := blockCount.toNat * blockSize.toNat
    (fun moved => .buffer moved.1 (moved.2 ++ buffer.drop length)) <$>
      moveAccepted config ⟨.fromCard, function, address, blockSize⟩ blockCount (buffer.take length)
  | writeBlocks function address blockCount blockSize buffer =>
    (fun moved => .finished moved.1) <$>
      moveAccepted config ⟨.toCard, function, address, blockSize⟩ blockCount
        (buffer.take (blockCount.toNat * blockSize.toNat))
  | readSpread function address blockSize buffers =>
    let lengths := buffers.map List.length
    (fun moved => .buffers moved.1 (splitLengths lengths moved.2)) <$>
      moveLaidOut config ⟨.fromCard, function, address, blockSize⟩ lengths buffers.flatten
  | writeSpread function address blockSize buffers =>
    (fun moved => .finished moved.1) <$>
      moveLaidOut config ⟨.toCard, function, address, blockSize⟩ (buffers.map List.length)
        buffers.flatten
  | withBus steps value failure =>
    (fun ended => .bus (match ended.1 <|> failure with
      | some cause => .error (.bus cause)
      | none => .ok value) ended.2) <$> innerSteps config steps

end DeviceStep

/-- A request for blocks that passed the checks in front of the lock is accepted. -/
theorem AcceptedBlocks.of_checked {config : DeviceConfig} {function : UInt8}
    {address blockCount blockSize : UInt32} {bufferLength : Nat}
    (checked : (CardLink.blockLength config function address blockCount blockSize bufferLength).map
      (fun _ => ()) = .ok ()) :
    AcceptedBlocks function address blockCount blockSize bufferLength := by
  cases accepted : CardLink.blockLength config function address blockCount blockSize bufferLength with
  | error cause =>
    rw [accepted] at checked
    cases checked
  | ok length => exact (AcceptedBlocks.of_blockLength accepted).2

/-- A register access checks its target, and then locks. -/
theorem accessLocked_eq (config : DeviceConfig) (access : DirectAccess) :
    (accessLocked config access).run =
      match checkTarget access.function access.address with
      | .error cause => return .error cause
      | .ok () => locking config .error (accessRegister access).run := by
  rw [accessLocked]
  cases checkTarget access.function access.address with
  | error cause => rfl
  | ok done =>
    -- The memory of a register access is empty, so only the result is left of what was held.
    have held : (ExceptT.mk do
        let held ← holdingBus config () do
          let result ← (accessRegister access).run
          return (result, ())
        return held.1).run = locking config .error (accessRegister access).run := by
      simp only [ExceptT.run_mk, bind_pure_comp, holdingBus_eq, map_locking, Functor.map_map,
        id_map']
    exact held

/-- A transfer of blocks checks its length, and then locks. -/
theorem moveBlocks_eq (config : DeviceConfig) (request : BlockRequest) (blockCount : UInt32)
    (buffer : Bytes) :
    moveBlocks config request blockCount buffer =
      match blockLength config request.function request.address blockCount request.blockSize
        buffer.length with
      | .error cause => return (.error cause, buffer)
      | .ok _ =>
        let length := blockCount.toNat * request.blockSize.toNat
        locking config (fun cause => (.error cause, buffer))
          ((fun moved => (moved.1, moved.2 ++ buffer.drop length)) <$>
            moveAccepted config request blockCount (buffer.take length)) := by
  rw [moveBlocks]
  cases accepted : blockLength config request.function request.address blockCount request.blockSize
    buffer.length with
  | error cause => rfl
  | ok length =>
    obtain ⟨product, -⟩ := AcceptedBlocks.of_blockLength accepted
    simp only [holdingBus_eq, bind_pure_comp, product]

/-- A transfer over several buffers checks its target, and then locks. -/
theorem moveSpread_eq (config : DeviceConfig) (request : BlockRequest) (buffers : List Bytes) :
    moveSpread config request buffers =
      match checkTarget request.function request.address with
      | .error cause => return (.error cause, buffers)
      | .ok () =>
        let lengths := buffers.map List.length
        locking config (fun cause => (.error cause, buffers))
          ((fun moved => (moved.1, splitLengths lengths moved.2)) <$>
            moveLaidOut config request lengths buffers.flatten) := by
  rw [moveSpread]
  cases checkTarget request.function request.address with
  | error cause => rfl
  | ok done => simp only [holdingBus_eq, bind_pure_comp]

namespace DeviceStep

/-- Every request is refused by its checks, or takes the lock for its body. -/
theorem program_eq (config : DeviceConfig) (step : DeviceStep) :
    step.program config =
      match step.precheck config with
      | .error cause => return step.refused cause
      | .ok () => locking config (fun cause => step.refused cause) (step.body config) := by
  cases step with
  | readRegister function address =>
    simp only [program, CardLink.readRegister, accessLocked_eq, precheck, refused, body]
    cases checkTarget function address <;> simp [map_locking]
  | writeRegister function address value =>
    simp only [program, CardLink.writeRegister, bind_pure_comp, ExceptT.run_map, accessLocked_eq,
      precheck, refused, body]
    cases checkTarget function address with
    | error cause => rfl
    | ok done =>
      simp only [map_locking, Functor.map_map]
      rfl
  | writeReadRegister function address value =>
    simp only [program, CardLink.writeReadRegister, accessLocked_eq, precheck, refused, body]
    cases checkTarget function address <;> simp [map_locking]
  | readBlocks function address blockCount blockSize buffer =>
    simp only [program, CardLink.readBlocks, moveBlocks_eq, precheck, refused, body]
    cases blockLength config function address blockCount blockSize buffer.length <;>
      simp [map_locking, Except.map]
  | writeBlocks function address blockCount blockSize buffer =>
    simp only [program, CardLink.writeBlocks, moveBlocks_eq, precheck, refused, body]
    cases blockLength config function address blockCount blockSize buffer.length <;>
      simp [map_locking, Except.map]
  | readSpread function address blockSize buffers =>
    simp only [program, CardLink.readSpread, moveSpread_eq, precheck, refused, body]
    cases checkTarget function address <;> simp [map_locking]
  | writeSpread function address blockSize buffers =>
    simp only [program, CardLink.writeSpread, moveSpread_eq, precheck, refused, body]
    cases checkTarget function address <;> simp [map_locking]
  | withBus steps value failure =>
    simp only [program, CardLink.withBus, holdingBus_eq, precheck, refused, body, bind_pure_comp,
      map_locking, Functor.map_map]
    -- Both sides run the steps, and wrap the same failure.
    refine congrArg (locking config _) (congrArg (· <$> innerSteps config steps) (funext fun ended => ?_))
    cases ended.1 <|> failure <;> rfl

/-- A free bus is free again after every request, whatever became of it. -/
theorem locked_run_program {σ : Type} (model : HostModel σ) {state : BusState σ} (config : DeviceConfig)
    (step : DeviceStep) (free : state.locked = false) :
    ((step.program config).run model state).state.locked = false := by
  rw [program_eq]
  cases step.precheck config with
  | error cause => exact free
  | ok done => simp only [run_locking_free model config _ _ free]

end DeviceStep

end CardLink
