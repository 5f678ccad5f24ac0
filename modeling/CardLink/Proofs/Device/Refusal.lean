import CardLink.Proofs.Device.Request

/-!
Which requests a device refuses, and for which reason. A request that is refused leaves the host, the
bus and every buffer as they were, and any other request succeeds or reports a failed transfer.
-/

namespace CardLink

/-- Why a target is refused, if it is: the function is looked at first. -/
def targetRefusal? (function : UInt8) (address : UInt32) : Option DeviceError :=
  if 7 < function.toNat then some .functionInvalid
  else if 0x1FFFF < address.toNat then some .addressInvalid
  else none

/-- Why blocks of one buffer are refused, if they are. -/
def blocksRefusal? (blockCount blockSize bufferLength : Nat) : Option DeviceError :=
  if blockCount = 0 ∨ blockSize = 0 ∨ 2048 < blockSize ∨ (blockCount = 1 ∧ 512 < blockSize)
      ∨ bufferLength < blockCount * blockSize then some .lengthInvalid
  else none

/-- Why blocks across several buffers are refused, if they are: the buffers are counted first. -/
def spreadRefusal? (blockSize : Nat) (lengths : List Nat) : Option DeviceError :=
  let total := lengths.sum
  if 8 < lengths.length then some .segmentsFull
  else if blockSize = 0 ∨ 2048 < blockSize ∨ total = 0 ∨ ¬ blockSize ∣ total
      ∨ 511 < total / blockSize ∨ (total / blockSize = 1 ∧ 512 < blockSize) then some .lengthInvalid
  else none

/-- The check of a target gives the reason to refuse it. -/
theorem checkTarget_eq_refusal (function : UInt8) (address : UInt32) :
    checkTarget function address =
      match targetRefusal? function address with
      | some cause => .error cause
      | none => .ok () := by
  rw [checkTarget_eq, targetRefusal?]
  split
  · rfl
  · split <;> rfl

/-- For a buffer that fits the machine, the only limit on the product of count and size is its length. -/
theorem blockLength_eq_refusal (config : DeviceConfig) (function : UInt8)
    (address blockCount blockSize : UInt32) {bufferLength : Nat}
    (fits : bufferLength ≤ config.lengthWidth.greatest) :
    blockLength config function address blockCount blockSize bufferLength =
      match (targetRefusal? function address).or
        (blocksRefusal? blockCount.toNat blockSize.toNat bufferLength) with
      | some cause => .error cause
      | none => .ok (blockCount.toNat * blockSize.toNat) := by
  rw [blockLength_eq, checkTarget_eq_refusal]
  cases targetRefusal? function address with
  | some cause => rfl
  | none =>
    -- A product that no length word holds is greater than the buffer as well.
    have short : (config.lengthWidth.greatest < blockCount.toNat * blockSize.toNat
        ∨ bufferLength < blockCount.toNat * blockSize.toNat) ↔
        bufferLength < blockCount.toNat * blockSize.toNat := by omega
    simp only [Except.bind, Option.none_or, blocksRefusal?, short]
    split <;> rfl

theorem AcceptedSpread.of_refusal {function : UInt8} {address blockSize : UInt32}
    {buffers : List Bytes} (valid : ValidTarget function address)
    (fine : spreadRefusal? blockSize.toNat (buffers.map List.length) = none) :
    AcceptedSpread function address blockSize buffers := by
  -- The lengths add up to the length of all buffers laid one after another.
  unfold spreadRefusal? at fine
  rw [List.length_map, ← List.length_flatten] at fine
  dsimp only at fine
  split at fine
  · cases fine
  · split at fine
    · cases fine
    · rename_i refused
      -- None of the reasons holds, so each of the conditions does.
      simp only [not_or, Classical.not_not] at refused
      obtain ⟨size_pos, size_le, total_pos, whole, blocks_le, single_le⟩ := refused
      exact ⟨valid, by omega, by omega, by omega, whole, by omega, by omega, by omega⟩

/-- Buffers that are not refused go with one command, and refused ones are left alone. -/
theorem moveLaidOut_eq (config : DeviceConfig) (request : BlockRequest) (lengths : List Nat)
    (memory : Bytes) :
    moveLaidOut config request lengths memory =
      match spreadRefusal? request.blockSize.toNat lengths with
      | some cause => return (.error cause, memory)
      | none =>
        let blockCount := UInt32.ofNat (lengths.sum / request.blockSize.toNat)
        let mode := ExtendedMode.ofTransfer blockCount config.incrementAddress
        moveExtended
          (request.access mode request.address (countField mode blockCount request.blockSize))
          { blockSize := request.blockSize, blockCount,
            buffer := .spread request.direction ⟨neighbours 0 lengths, lengths.sum⟩ memory } := by
  rw [moveLaidOut, SegmentList.ofLengths_eq, spreadRefusal?]
  by_cases few : lengths.length ≤ 8
  · -- The list holds all buffers, so their total length is what is looked at next.
    rw [if_pos few, if_neg (by omega)]
    simp only [spreadBlockCount_eq, Nat.dvd_iff_mod_eq_zero]
    split_ifs <;> rfl
  · rw [if_neg few, if_pos (by omega)]

/-- The fault lies in the request itself, and not in the bus or its lock. -/
def DeviceError.inRequest : DeviceError → Bool
  | functionInvalid | addressInvalid | lengthInvalid | segmentsFull => true
  | bus _ | lockTimeout | selfBlocked => false

namespace DeviceStep

/-- Why a request is refused in front of the lock, if it is. -/
def earlyRefusal? : DeviceStep → Option DeviceError
  | readRegister function address | writeRegister function address _
  | writeReadRegister function address _ | readSpread function address _ _
  | writeSpread function address _ _ => targetRefusal? function address
  | readBlocks function address blockCount blockSize buffer
  | writeBlocks function address blockCount blockSize buffer =>
    (targetRefusal? function address).or
      (blocksRefusal? blockCount.toNat blockSize.toNat buffer.length)
  | withBus _ _ _ => none

/-- Why a request is refused with the lock held, if it is: several buffers are only looked at then. -/
def lateRefusal? : DeviceStep → Option DeviceError
  | readSpread _ _ blockSize buffers | writeSpread _ _ blockSize buffers =>
    spreadRefusal? blockSize.toNat (buffers.map List.length)
  | readRegister _ _ | writeRegister _ _ _ | writeReadRegister _ _ _ | readBlocks _ _ _ _ _
  | writeBlocks _ _ _ _ _ | withBus _ _ _ => none

/-- The buffer of a request for blocks fits the length words of the machine. -/
def Fits (config : DeviceConfig) : DeviceStep → Prop
  | readBlocks _ _ _ _ buffer | writeBlocks _ _ _ _ buffer =>
    buffer.length ≤ config.lengthWidth.greatest
  | readRegister _ _ | writeRegister _ _ _ | writeReadRegister _ _ _ | readSpread _ _ _ _
  | writeSpread _ _ _ _ | withBus _ _ _ => True

/-- The checks in front of the lock give the early reason to refuse a request. -/
theorem precheck_eq (config : DeviceConfig) (step : DeviceStep) (fits : step.Fits config) :
    step.precheck config =
      match step.earlyRefusal? with
      | some cause => .error cause
      | none => .ok () := by
  cases step with
  | readBlocks function address blockCount blockSize buffer
  | writeBlocks function address blockCount blockSize buffer =>
    simp only [precheck, earlyRefusal?, blockLength_eq_refusal config function address _ _ fits]
    split <;> rfl
  | withBus steps value failure => rfl
  | _ => exact checkTarget_eq_refusal _ _

/-- The checks in front of the lock find fault with the request alone. -/
theorem inRequest_of_precheck (config : DeviceConfig) (step : DeviceStep) {cause : DeviceError}
    (refused : step.precheck config = .error cause) : cause.inRequest = true := by
  have target (function : UInt8) (address : UInt32)
      (refused : checkTarget function address = .error cause) : cause.inRequest = true := by
    rw [checkTarget_eq] at refused
    split at refused
    · cases refused
      rfl
    · split at refused
      · cases refused
        rfl
      · cases refused
  have blocks (function : UInt8) (address blockCount blockSize : UInt32) (bufferLength : Nat)
      (refused : blockLength config function address blockCount blockSize bufferLength =
        .error cause) : cause.inRequest = true := by
    -- The target is checked first, and then the length with its one cause.
    rw [blockLength_eq] at refused
    cases checked : checkTarget function address with
    | error other =>
      rw [checked] at refused
      cases refused
      exact target function address checked
    | ok done =>
      rw [checked] at refused
      simp only [Except.bind] at refused
      split at refused
      · cases refused
        rfl
      · cases refused
  cases step with
  | readBlocks function address blockCount blockSize buffer
  | writeBlocks function address blockCount blockSize buffer =>
    simp only [precheck, map_eq_error] at refused
    exact blocks _ _ _ _ _ refused
  | withBus steps value failure => cases refused
  | _ => exact target _ _ refused

/-- The checks with the lock held find fault with the request alone. -/
theorem inRequest_of_lateRefusal (step : DeviceStep) {cause : DeviceError}
    (refusal : step.lateRefusal? = some cause) : cause.inRequest = true := by
  have spread (blockSize : Nat) (lengths : List Nat)
      (refused : spreadRefusal? blockSize lengths = some cause) : cause.inRequest = true := by
    unfold spreadRefusal? at refused
    dsimp only at refused
    split at refused
    · cases refused
      rfl
    · split at refused
      · cases refused
        rfl
      · cases refused
  cases step with
  | readSpread function address blockSize buffers
  | writeSpread function address blockSize buffers => exact spread _ _ refusal
  | _ => cases refusal

section Run

variable {σ : Type} (model : HostModel σ) (state : BusState σ) (config : DeviceConfig)

/-- A request that is refused with the lock held does nothing while it holds it. -/
theorem run_body_refused (step : DeviceStep) {cause : DeviceError}
    (refusal : step.lateRefusal? = some cause) :
    (step.body config).run model state = ⟨step.refused cause, state, [], []⟩ := by
  -- Only requests for several buffers have a late reason.
  cases step with
  | readSpread function address blockSize buffers =>
    rw [body, Bus.run_map, moveLaidOut_eq]
    simp [show spreadRefusal? _ _ = some cause from refusal, refused, splitLengths_flatten]
  | writeSpread function address blockSize buffers =>
    rw [body, Bus.run_map, moveLaidOut_eq]
    simp [show spreadRefusal? _ _ = some cause from refusal, refused]
  | _ => cases refusal

/-- The verdict on an answer knows one failure only. -/
private theorem cause_of_verdict {reply : TransferReply} {cause : DeviceError}
    (failed : reply.verdict = .error cause) : cause = .bus .transferFailed := by
  unfold TransferReply.verdict at failed
  split at failed
  · exact (Except.error.inj failed).symm
  · cases failed

private theorem cause_of_accessRegister (access : DirectAccess) {cause : DeviceError}
    (failed : ((accessRegister access).run.run model state).value = .error cause) :
    cause = .bus .transferFailed := by
  -- The value is read off the answer, and fails exactly if the verdict on it does.
  obtain ⟨value, -⟩ := run_accessRegister model state access
  rw [value, map_eq_error] at failed
  exact cause_of_verdict failed

private theorem cause_of_moveAccepted (request : BlockRequest) (blockCount : UInt32) {buffer : Bytes}
    (accepted : AcceptedBlocks request.function request.address blockCount request.blockSize
      buffer.length) {cause : DeviceError}
    (failed : ((moveAccepted config request blockCount
      (buffer.take (blockCount.toNat * request.blockSize.toNat))).run model state).value.1 =
        .error cause) : cause = .bus .transferFailed := by
  -- An accepted request follows its plan, which ends well or with a failed transfer.
  have carried := (moveAccepted_follows model state request config blockCount _ accepted.front
    accepted.length_front).carriedOut
  have unfinished := carried.otherwise (by rw [failed]; simp)
  rw [failed] at unfinished
  exact Except.error.inj unfinished.1

private theorem cause_of_moveLaidOut (request : BlockRequest) (lengths : List Nat) (memory : Bytes)
    (fine : spreadRefusal? request.blockSize.toNat lengths = none) {cause : DeviceError}
    (failed : ((moveLaidOut config request lengths memory).run model state).value.1 =
      .error cause) : cause = .bus .transferFailed := by
  -- There is one command, and its result is the verdict on its answer.
  simp only [moveLaidOut_eq, fine] at failed
  generalize countField _ _ _ = count at failed
  generalize DataPhase.mk _ _ _ _ = data at failed
  obtain ⟨value, -⟩ := run_moveExtended model state (request.access _ _ count) data
  rw [value] at failed
  exact cause_of_verdict failed

/-- A request that passes all of its checks fails for one reason only. -/
theorem cause_of_body (step : DeviceStep) (access : step.target?.isSome)
    (checked : step.precheck config = .ok ()) (late : step.lateRefusal? = none) {cause : DeviceError}
    (failed : ((step.body config).run model state).value.failure? = some cause) :
    cause = .bus .transferFailed := by
  cases step with
  | readRegister function address | writeRegister function address value
  | writeReadRegister function address value =>
    simp only [body, Bus.run_map, DeviceAnswer.failure?_value, DeviceAnswer.failure?_finished,
      map_eq_error] at failed
    exact cause_of_accessRegister model state _ failed
  | readBlocks function address blockCount blockSize buffer =>
    simp only [body, Bus.run_map, DeviceAnswer.failure?_buffer] at failed
    exact cause_of_moveAccepted model state config ⟨.fromCard, function, address, blockSize⟩
      blockCount (.of_checked checked) failed
  | writeBlocks function address blockCount blockSize buffer =>
    simp only [body, Bus.run_map, DeviceAnswer.failure?_finished] at failed
    exact cause_of_moveAccepted model state config ⟨.toCard, function, address, blockSize⟩
      blockCount (.of_checked checked) failed
  | readSpread function address blockSize buffers =>
    simp only [body, Bus.run_map, DeviceAnswer.failure?_buffers] at failed
    exact cause_of_moveLaidOut model state config ⟨.fromCard, function, address, blockSize⟩ _ _ late
      failed
  | writeSpread function address blockSize buffers =>
    simp only [body, Bus.run_map, DeviceAnswer.failure?_finished] at failed
    exact cause_of_moveLaidOut model state config ⟨.toCard, function, address, blockSize⟩ _ _ late
      failed
  | withBus steps value failure => cases access

variable {state}

end Run

end DeviceStep

end CardLink
