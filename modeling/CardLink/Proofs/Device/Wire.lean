import CardLink.Proofs.Bus
import CardLink.Proofs.Device.Refusal

/-!
The transfers of a device are well formed: header and data phase of each one agree, the count field is
never one that a card takes for an endless transfer, and the target is the one that was asked for.
-/

namespace CardLink

/-- The argument of an extended transfer and the data phase that goes with it agree. -/
structure PhaseMatches (fields : ExtendedFields) (data : DataPhase) : Prop where
  /-- The data phase holds data of the card. -/
  real : data.tuning = false
  /-- The direction bit tells which way the bytes go. -/
  direction : fields.write = true ↔ data.buffer.direction = .toCard
  /-- No block is empty. -/
  size_pos : 1 ≤ data.blockSize.toNat
  /-- A function can be set to the block size. -/
  size_le : data.blockSize.toNat ≤ 2048
  /-- The buffer holds exactly the blocks. -/
  length_eq : data.buffer.length = data.blockSize.toNat * data.blockCount.toNat
  /-- There is a byte to move. -/
  length_pos : 0 < data.buffer.length
  /-- In block mode the count field holds the blocks, and never the zero of an endless transfer. -/
  blocks : fields.blockMode = true →
    fields.count = data.blockCount.toNat ∧ 1 ≤ fields.count ∧ fields.count ≤ 511
  /-- In byte mode there is one block, and the count field holds its size, where 512 reads zero. -/
  bytes : fields.blockMode = false →
    data.blockCount.toNat = 1 ∧ data.blockSize.toNat ≤ 512 ∧ fields.count = data.blockSize.toNat % 512

namespace Transfer

/-- A transfer as a device may issue it. -/
structure WellFormed (asked : Transfer) : Prop where
  /-- Nothing has been answered yet. -/
  unanswered : asked.command.response.words = [0, 0, 0, 0]
  /-- The card answers with an I/O status. -/
  responseType : asked.command.responseType = .r5
  /-- It is a register access without data, or an extended transfer with a data phase that matches. -/
  kind : asked.command.index.toNat = 52 ∧ asked.data = none
    ∨ asked.command.index.toNat = 53
      ∧ ∃ data, asked.data = some data ∧ PhaseMatches (.decode asked.command.argument) data

/-- The function and the address in the argument of a transfer are these, and nothing was cut off. -/
structure Names (asked : Transfer) (function : UInt8) (address : UInt32) : Prop where
  /-- Three bits hold the function. -/
  function_eq : bitField asked.command.argument 28 3 = function.toNat
  /-- Seventeen bits hold the address. -/
  address_eq : bitField asked.command.argument 9 17 = address.toNat

/-- A register access is well formed. -/
theorem wellFormed_direct (access : DirectAccess) : access.transfer.WellFormed :=
  ⟨rfl, rfl, .inl ⟨rfl, rfl⟩⟩

/-- A register access names its target. -/
theorem names_direct (access : DirectAccess) (valid : ValidTarget access.function access.address) :
    access.transfer.Names access.function access.address := by
  -- Both fields are wide enough, so nothing is cut off.
  have ⟨function_le, address_le⟩ := valid
  have read := access.decode_encode
  constructor
  · have function := congrArg DirectFields.function read
    change bitField access.encode 28 3 = access.function.toNat % 2 ^ 3 at function
    change bitField access.encode 28 3 = access.function.toNat
    omega
  · have address := congrArg DirectFields.address read
    change bitField access.encode 9 17 = access.address.toNat % 2 ^ 17 at address
    change bitField access.encode 9 17 = access.address.toNat
    omega

/-- A register access has no data. -/
theorem WellFormed.data_eq_none {asked : Transfer} (formed : asked.WellFormed)
    (direct : asked.command.index.toNat = 52) : asked.data = none := by
  rcases formed.kind with ⟨-, none⟩ | ⟨extended, -⟩
  · exact none
  · omega

/-- A card reads from an extended transfer what its fields say. -/
theorem sound_extended {asked : Transfer} {fields : ExtendedFields} {data : DataPhase}
    (command : asked.command = fields.command) (phase : asked.data = some data) (fit : fields.Fit)
    (matching : PhaseMatches fields data) :
    asked.WellFormed ∧ ∀ (function : UInt8) (address : UInt32), fields.function = function.toNat →
      fields.address = address.toNat → asked.Names function address := by
  have read : .decode asked.command.argument = fields := by
    rw [command]
    exact ExtendedFields.decode_word fit
  constructor
  · refine ⟨by rw [command]; rfl, by rw [command]; rfl, .inr ⟨by rw [command]; rfl, data, phase, ?_⟩⟩
    rw [read]
    exact matching
  · intro function address sameFunction sameAddress
    exact ⟨(congrArg ExtendedFields.function read).trans sameFunction,
      (congrArg ExtendedFields.address read).trans sameAddress⟩

end Transfer

/-- All calls are well formed transfers; the first one and every register access name the target. -/
def OnWire (function : UInt8) (address : UInt32) (issued : List Exchange) : Prop :=
  ∀ (place : Nat) (exchange : Exchange), issued[place]? = some exchange →
    ∃ asked : Transfer, exchange.call = .transfer asked ∧ asked.WellFormed
      ∧ (place = 0 ∨ asked.command.index.toNat = 52 → asked.Names function address)

section OnWire

variable {function : UInt8} {address : UInt32}

theorem onWire_nil : OnWire function address [] := by
  intro place exchange found
  simp at found

theorem onWire_single {asked : Transfer} (reply : TransferReply) (formed : asked.WellFormed)
    (names : asked.Names function address) : OnWire function address [⟨.transfer asked, reply⟩] := by
  intro place exchange found
  rw [List.getElem?_singleton] at found
  split at found
  · cases found
    exact ⟨asked, rfl, formed, fun _ => names⟩
  · cases found

/-- The calls that follow a plan of extended transfers are as well formed as the plan. -/
theorem FollowsPlan.onWire {plan : List Transfer} {issued : List Exchange}
    {result : Except DeviceError Unit} (follows : FollowsPlan plan issued result)
    (sound : ∀ (place : Nat) (asked : Transfer), plan[place]? = some asked →
      asked.WellFormed ∧ asked.data.isSome ∧ (place = 0 → asked.Names function address)) :
    OnWire function address issued := by
  intro place exchange found
  -- The call at a place of the run is the transfer at the same place of the plan.
  have call : (issued.map Exchange.call)[place]? = some exchange.call := by
    rw [List.getElem?_map, found]
    rfl
  obtain ⟨rest, joined⟩ := follows.carriedOut.calls_first
  have planned : (plan.map HostCall.transfer)[place]? = some exchange.call := by
    rw [← joined, List.getElem?_append_left (List.getElem?_eq_some_iff.mp call).1]
    exact call
  rw [List.getElem?_map, Option.map_eq_some_iff] at planned
  obtain ⟨asked, member, same⟩ := planned
  obtain ⟨formed, some, first⟩ := sound place asked member
  refine ⟨asked, same.symm, formed, ?_⟩
  rintro (front | direct)
  · exact first front
  · rw [formed.data_eq_none direct] at some
    cases some

end OnWire

namespace BlockRequest

variable (request : BlockRequest) (increments : Bool)

/-- The only command of a request for one block is well formed and names the target. -/
theorem sound_byteTransfer {bytes : Bytes}
    (accepted : AcceptedBlocks request.function request.address 1 request.blockSize bytes.length) :
    (request.byteTransfer increments bytes).WellFormed
      ∧ (request.byteTransfer increments bytes).Names request.function request.address := by
  -- The buffer holds the block, and the block is short enough for byte mode.
  have ⟨⟨function_le, address_le⟩, _, size_pos, size_le, single_le, room⟩ := accepted
  have short := single_le rfl
  rw [UInt32.toNat_one, Nat.one_mul] at room
  have length : (bytes.take request.blockSize.toNat).length = request.blockSize.toNat := by
    rw [List.length_take, Nat.min_eq_left room]
  have sound := @Transfer.sound_extended (request.byteTransfer increments bytes) _ _ rfl rfl
    ⟨by dsimp only; omega, by dsimp only; omega, by dsimp only; omega⟩
    { real := rfl
      direction := decide_eq_true_iff
      size_pos := size_pos
      size_le := size_le
      length_eq := length.trans (Nat.mul_one _).symm
      length_pos := Nat.lt_of_lt_of_eq size_pos length.symm
      blocks := by intro block; cases block
      bytes := fun _ => ⟨rfl, short, rfl⟩ }
  exact ⟨sound.1, sound.2 _ _ rfl rfl⟩

/-- Every command of a request in block mode is well formed, and the first one names the target. -/
theorem sound_blockTransfer {blockCount : UInt32} {bytes : Bytes} {place : Nat}
    (accepted : AcceptedBlocks request.function request.address blockCount request.blockSize
      bytes.length)
    (member : place < (blockCount.toNat + 510) / 511) :
    (request.blockTransfer increments blockCount.toNat bytes place).WellFormed
      ∧ (place = 0 → (request.blockTransfer increments blockCount.toNat bytes place).Names
        request.function request.address) := by
  have ⟨⟨function_le, address_le⟩, _, size_pos, size_le, _, room⟩ := accepted
  -- There are blocks left for the command, and no more than its count field holds.
  let blocks := min 511 (blockCount.toNat - 511 * place)
  have blocks_pos : 1 ≤ blocks := by omega
  have blocks_le : blocks ≤ 511 := by omega
  have word : (UInt32.ofNat blocks).toNat = blocks := by
    rw [UInt32.toNat_ofNat']
    omega
  have within : 511 * request.blockSize.toNat * place + blocks * request.blockSize.toNat ≤
      blockCount.toNat * request.blockSize.toNat := request.blockTransfer_within member
  have length : (slice bytes (511 * request.blockSize.toNat * place)
      (blocks * request.blockSize.toNat)).length = blocks * request.blockSize.toNat := by
    rw [slice, List.length_take, List.length_drop]
    omega
  have start_le := addressBehind_le increments (511 * request.blockSize.toNat * place) address_le
  have sound := @Transfer.sound_extended
    (request.blockTransfer increments blockCount.toNat bytes place) _ _ rfl rfl
    ⟨by dsimp only; omega, by dsimp only; omega, by dsimp only; omega⟩
    { real := rfl
      direction := decide_eq_true_iff
      size_pos := size_pos
      size_le := size_le
      length_eq := length.trans (by rw [Nat.mul_comm]; exact congrArg (_ * ·) word.symm)
      length_pos := Nat.lt_of_lt_of_eq (Nat.mul_pos blocks_pos size_pos) length.symm
      blocks := fun _ => ⟨word.symm, blocks_pos, blocks_le⟩
      bytes := by intro byte; cases byte }
  -- Only the first command starts at the address of the request.
  refine ⟨sound.1, ?_⟩
  rintro rfl
  exact sound.2 _ _ rfl (addressBehind_zero increments address_le)

/-- Every command in the plan of a request is well formed, and the first one names the target. -/
theorem sound_plan {blockCount : UInt32} {bytes : Bytes}
    (accepted : AcceptedBlocks request.function request.address blockCount request.blockSize
      bytes.length)
    (place : Nat) (asked : Transfer)
    (member : (request.plan increments blockCount.toNat bytes)[place]? = some asked) :
    asked.WellFormed ∧ asked.data.isSome
      ∧ (place = 0 → asked.Names request.function request.address) := by
  unfold plan at member
  split at member
  · -- One block goes alone, so its command is the first one.
    rename_i single
    have one : blockCount = 1 := UInt32.toNat_inj.mp single
    subst one
    obtain ⟨formed, names⟩ := request.sound_byteTransfer increments accepted
    rw [List.getElem?_singleton] at member
    split at member
    · cases member
      exact ⟨formed, rfl, fun _ => names⟩
    · cases member
  · -- The commands in block mode stand at the places that they are named by.
    rw [List.getElem?_map, Option.map_eq_some_iff] at member
    obtain ⟨index, found, rfl⟩ := member
    obtain ⟨inside, rfl⟩ := List.getElem?_eq_some_iff.mp found
    rw [List.length_range] at inside
    rw [List.getElem_range]
    obtain ⟨formed, names⟩ := request.sound_blockTransfer increments accepted inside
    exact ⟨formed, rfl, names⟩

/-- The only command of a request over several buffers is well formed and names the target. -/
theorem sound_spreadTransfer {buffers : List Bytes}
    (accepted : AcceptedSpread request.function request.address request.blockSize buffers) :
    (request.spreadTransfer increments buffers).WellFormed
      ∧ (request.spreadTransfer increments buffers).Names request.function request.address := by
  have ⟨⟨function_le, address_le⟩, _, size_pos, size_le, _, total_pos, blocks_le, single_le⟩ := accepted
  let blocks := UInt32.ofNat (buffers.flatten.length / request.blockSize.toNat)
  have word : blocks.toNat = buffers.flatten.length / request.blockSize.toNat := accepted.blockCount.1
  have blocks_pos : 1 ≤ blocks.toNat := accepted.blockCount.2.1
  have total : buffers.flatten.length = blocks.toNat * request.blockSize.toNat :=
    accepted.blockCount.2.2
  let mode := ExtendedMode.ofTransfer blocks increments
  let count := countField mode blocks request.blockSize
  have block : mode.blockMode = decide (1 < blocks.toNat) := by simp [mode]
  have length : (spreadBuffer request.direction buffers).length =
      request.blockSize.toNat * blocks.toNat := by
    rw [Nat.mul_comm, ← total]
    exact List.length_flatten.symm
  -- Several blocks are counted in blocks, of which there are no more than 511.
  have several : mode.blockMode = true →
      count.toNat % 512 = blocks.toNat ∧ 1 ≤ count.toNat % 512 ∧ count.toNat % 512 ≤ 511 := by
    intro many
    have counted : count = blocks := if_pos many
    rw [counted]
    omega
  -- One block alone is counted in bytes.
  have alone : mode.blockMode = false → blocks.toNat = 1 ∧ request.blockSize.toNat ≤ 512
      ∧ count.toNat % 512 = request.blockSize.toNat % 512 := by
    intro one
    have counted : count = request.blockSize := if_neg (by rw [one]; simp)
    have single : blocks.toNat = 1 := by
      have := of_decide_eq_false (block.symm.trans one)
      omega
    rw [counted]
    exact ⟨single, single_le (word.symm.trans single), rfl⟩
  have sound := @Transfer.sound_extended (request.spreadTransfer increments buffers) _ _
    (request.command_access mode request.address count accepted.toValidTarget) rfl
    ⟨by dsimp only; omega, by dsimp only; omega, by dsimp only; omega⟩
    { real := rfl
      direction := decide_eq_true_iff
      size_pos := size_pos
      size_le := size_le
      length_eq := length
      length_pos := Nat.lt_of_lt_of_eq (Nat.mul_pos size_pos blocks_pos) length.symm
      blocks := several
      bytes := alone }
  exact ⟨sound.1, sound.2 _ _ rfl rfl⟩

end BlockRequest

section Run

variable {σ : Type} (model : HostModel σ) (state : BusState σ) (config : DeviceConfig)

private theorem accessRegister_onWire (access : DirectAccess)
    (valid : ValidTarget access.function access.address) :
    OnWire access.function access.address
      ((accessRegister access).run.run model state).exchanges := by
  obtain ⟨-, -, -, exchanges⟩ := run_accessRegister model state access
  rw [exchanges]
  exact onWire_single _ (Transfer.wellFormed_direct access) (Transfer.names_direct access valid)

private theorem moveAccepted_onWire (request : BlockRequest) (blockCount : UInt32) {buffer : Bytes}
    (accepted : AcceptedBlocks request.function request.address blockCount request.blockSize
      buffer.length) :
    OnWire request.function request.address ((moveAccepted config request blockCount
      (buffer.take (blockCount.toNat * request.blockSize.toNat))).run model state).exchanges :=
  -- The calls follow the plan, and every transfer of the plan is well formed.
  (moveAccepted_follows model state request config blockCount _ accepted.front
    accepted.length_front).onWire (request.sound_plan config.incrementAddress accepted.front)

private theorem moveLaidOut_onWire (request : BlockRequest) (buffers : List Bytes)
    (valid : ValidTarget request.function request.address) :
    OnWire request.function request.address ((moveLaidOut config request (buffers.map List.length)
      buffers.flatten).run model state).exchanges := by
  rw [moveLaidOut_eq]
  cases refusal : spreadRefusal? request.blockSize.toNat (buffers.map List.length) with
  | some cause => exact onWire_nil
  | none =>
    -- The only command is the one of the accepted request.
    obtain ⟨formed, names⟩ := request.sound_spreadTransfer config.incrementAddress
      (.of_refusal valid refusal)
    unfold BlockRequest.spreadTransfer at formed names
    rw [List.length_flatten] at formed names
    obtain ⟨-, -, -, exchanges⟩ := run_moveExtended model state _ _
    dsimp only
    rw [exchanges]
    exact onWire_single _ formed names

namespace DeviceStep

variable {function : UInt8} {address : UInt32}

/-- The calls of a request that passed the checks in front of the lock are well formed. -/
theorem body_onWire (step : DeviceStep) (target : step.target? = some (function, address))
    (checked : step.precheck config = .ok ()) :
    OnWire function address ((step.body config).run model state).exchanges := by
  cases step with
  | readRegister _ _ | writeRegister _ _ _ | writeReadRegister _ _ _ =>
    cases target
    simp only [body, Bus.run_map]
    exact accessRegister_onWire model state _ (.of_check checked)
  | readBlocks _ _ blockCount blockSize buffer =>
    cases target
    simp only [body, Bus.run_map]
    exact moveAccepted_onWire model state config ⟨.fromCard, function, address, blockSize⟩ blockCount
      (.of_checked checked)
  | writeBlocks _ _ blockCount blockSize buffer =>
    cases target
    simp only [body, Bus.run_map]
    exact moveAccepted_onWire model state config ⟨.toCard, function, address, blockSize⟩ blockCount
      (.of_checked checked)
  | readSpread _ _ blockSize buffers =>
    cases target
    simp only [body, Bus.run_map]
    exact moveLaidOut_onWire model state config ⟨.fromCard, function, address, blockSize⟩ buffers
      (.of_check checked)
  | writeSpread _ _ blockSize buffers =>
    cases target
    simp only [body, Bus.run_map]
    exact moveLaidOut_onWire model state config ⟨.toCard, function, address, blockSize⟩ buffers
      (.of_check checked)
  | withBus _ _ _ => cases target

/-- The calls of a request for registers are well formed, whoever holds the lock. -/
theorem program_onWire (step : DeviceStep) (target : step.target? = some (function, address)) :
    OnWire function address ((step.program config).run model state).exchanges := by
  rw [program_eq]
  cases checked : step.precheck config with
  | error cause => exact onWire_nil
  | ok done =>
    dsimp only
    cases held : state.locked with
    | true =>
      obtain ⟨-, -, -, exchanges⟩ := run_locking_held model config _ (step.body config) held
      rw [exchanges]
      exact onWire_nil
    | false =>
      rw [run_locking_free model config _ _ held]
      exact body_onWire model _ config step target checked

end DeviceStep

/--
Every transfer of a device is well formed, whatever it is asked for and whatever the host answers.

Header and data phase of each transfer agree, and the first transfer of a request and every register
access carry the function and the address of the request.
-/
theorem transfers_wellFormed (steps : List DeviceStep) (place : Nat) {step : DeviceStep}
    {function : UInt8} {address : UInt32} (asked : steps[place]? = some step)
    (target : step.target? = some (function, address)) :
    ∃ report, (Bus.runAll model (steps.map (DeviceStep.program config)) state).1[place]? = some report
      ∧ OnWire function address report.exchanges := by
  -- Each request runs on the state that the requests before it left behind.
  rw [Bus.runAll_getElem?, List.getElem?_map, asked]
  exact ⟨_, rfl, step.program_onWire model _ config target⟩

end Run

/-- A register access and a write over three buffers make one call each, both of them well formed. -/
theorem transfers_wellFormed_after_register :
    let steps : List DeviceStep :=
      [.writeReadRegister 2 0x1FFFF 7, .writeSpread 1 0x1FFFF 2 [[1, 2], [], [3, 4]]]
    let state : BusState ScriptedHost := { host := .ofScript {}, logger := { filter := .off } }
    let reports := (Bus.runAll ScriptedHost.model (steps.map (DeviceStep.program {})) state).1
    reports.map (·.exchanges.length) = [1, 1]
      ∧ (∃ report, reports[0]? = some report ∧ OnWire 2 0x1FFFF report.exchanges)
      ∧ ∃ report, reports[1]? = some report ∧ OnWire 1 0x1FFFF report.exchanges := by
  intro steps state reports
  exact ⟨by decide, transfers_wellFormed ScriptedHost.model state {} steps 0 rfl rfl,
    transfers_wellFormed ScriptedHost.model state {} steps 1 rfl rfl⟩

end CardLink
