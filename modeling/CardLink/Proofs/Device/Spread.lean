import CardLink.Device.Spread
import CardLink.Host.Scripted
import CardLink.Proofs.Device.Plan
import CardLink.Proofs.Segment

/-!
A transfer over several buffers is the transfer over one buffer that holds their bytes in order, for
every request that fits one command.
-/

namespace CardLink

/-- A total length is accepted for exactly these reasons. -/
theorem spreadBlockCount_eq (totalLength : Nat) (blockSize : UInt32) :
    spreadBlockCount totalLength blockSize =
      if blockSize.toNat = 0 ∨ 2048 < blockSize.toNat ∨ totalLength = 0
          ∨ totalLength % blockSize.toNat ≠ 0 ∨ 511 < totalLength / blockSize.toNat
          ∨ (totalLength / blockSize.toNat = 1 ∧ 512 < blockSize.toNat) then .error .lengthInvalid
      else .ok (.ofNat (totalLength / blockSize.toNat)) := by
  -- Three checks in a row refuse for the same cause, so they are one check.
  have noSize : blockSize = 0 ↔ blockSize.toNat = 0 := UInt32.toNat_inj.symm
  have bigSize : blockSize > maxBlockSize ↔ 2048 < blockSize.toNat := UInt32.lt_iff_toNat_lt
  have longSize : blockSize > maxByteCount ↔ 512 < blockSize.toNat := UInt32.lt_iff_toNat_lt
  have manyBlocks : maxBlockCount.toNat = 511 := rfl
  simp only [spreadBlockCount, noSize, bigSize, longSize, manyBlocks, bind, Except.bind, throw, throwThe,
    MonadExceptOf.throw, pure, Except.pure]
  grind

/-- A request for blocks across several buffers that passes every check. -/
structure AcceptedSpread (function : UInt8) (address blockSize : UInt32) (buffers : List Bytes) : Prop
    extends ValidTarget function address where
  /-- One list describes all buffers. -/
  few : buffers.length ≤ 8
  /-- No block is empty. -/
  size_pos : 1 ≤ blockSize.toNat
  /-- A function can be set to the block size. -/
  size_le : blockSize.toNat ≤ 2048
  /-- The buffers hold whole blocks. -/
  whole : blockSize.toNat ∣ buffers.flatten.length
  /-- There is a byte to move. -/
  total_pos : 0 < buffers.flatten.length
  /-- One command moves all blocks. -/
  blocks_le : buffers.flatten.length / blockSize.toNat ≤ 511
  /-- One block alone goes in byte mode. -/
  single_le : buffers.flatten.length / blockSize.toNat = 1 → blockSize.toNat ≤ 512

namespace AcceptedSpread

variable {function : UInt8} {address blockSize : UInt32} {buffers : List Bytes}

/-- The blocks of an accepted request are counted. -/
theorem counted (accepted : AcceptedSpread function address blockSize buffers) :
    spreadBlockCount buffers.flatten.length blockSize =
      .ok (.ofNat (buffers.flatten.length / blockSize.toNat)) := by
  -- Each reason to refuse contradicts one of the conditions.
  obtain ⟨target, few, size_pos, size_le, whole, total_pos, blocks_le, single_le⟩ := accepted
  rw [spreadBlockCount_eq, if_neg]
  rintro (empty | big | none | ragged | many | ⟨single, long⟩)
  · omega
  · omega
  · omega
  · exact ragged (Nat.mod_eq_zero_of_dvd whole)
  · omega
  · exact absurd (single_le single) (by omega)

/-- The block count fits its word, and is not zero. -/
theorem blockCount (accepted : AcceptedSpread function address blockSize buffers) :
    let blocks := UInt32.ofNat (buffers.flatten.length / blockSize.toNat)
    blocks.toNat = buffers.flatten.length / blockSize.toNat ∧ 1 ≤ blocks.toNat
      ∧ buffers.flatten.length = blocks.toNat * blockSize.toNat := by
  -- At most 511 blocks fit the word, and the division leaves no remainder.
  have word : (UInt32.ofNat (buffers.flatten.length / blockSize.toNat)).toNat =
      buffers.flatten.length / blockSize.toNat := by
    rw [UInt32.toNat_ofNat', Nat.mod_eq_of_lt (Nat.lt_of_le_of_lt accepted.blocks_le (by decide))]
  have some : 1 ≤ buffers.flatten.length / blockSize.toNat :=
    Nat.div_pos (Nat.le_of_dvd accepted.total_pos accepted.whole) accepted.size_pos
  refine ⟨word, by rw [word]; exact some, ?_⟩
  rw [word, Nat.div_mul_cancel accepted.whole]

/-- One buffer with the same bytes is accepted as well. -/
theorem blocks (accepted : AcceptedSpread function address blockSize buffers) :
    AcceptedBlocks function address (.ofNat (buffers.flatten.length / blockSize.toNat)) blockSize
      buffers.flatten.length := by
  -- Both paths ask the same of one block alone.
  obtain ⟨word, some, total⟩ := accepted.blockCount
  exact ⟨accepted.toValidTarget, some, accepted.size_pos, accepted.size_le,
    fun single => accepted.single_le (by rw [← word, single]), Nat.le_of_eq total.symm⟩

end AcceptedSpread

/-- The buffers of a request laid one after another. -/
def spreadBuffer (direction : Direction) (buffers : List Bytes) : DataBuffer :=
  .spread direction ⟨neighbours 0 (buffers.map List.length), (buffers.map List.length).sum⟩
    buffers.flatten

/-- The only command of a request over several buffers. -/
def BlockRequest.spreadTransfer (request : BlockRequest) (increments : Bool) (buffers : List Bytes) :
    Transfer :=
  let blockCount := UInt32.ofNat (buffers.flatten.length / request.blockSize.toNat)
  let mode := ExtendedMode.ofTransfer blockCount increments
  (request.access mode request.address (countField mode blockCount request.blockSize)).transfer
    { blockSize := request.blockSize, blockCount, buffer := spreadBuffer request.direction buffers }

/-- The same bytes in one stretch. -/
def DataBuffer.joined (buffer : DataBuffer) : DataBuffer :=
  .plain buffer.direction (buffer.firstBytes buffer.length)

/-- The first bytes of buffers laid one after another are the first bytes of all of them. -/
theorem firstBytes_spreadBuffer (direction : Direction) (buffers : List Bytes) {count : Nat}
    (within : count ≤ buffers.flatten.length) :
    (spreadBuffer direction buffers).firstBytes count = buffers.flatten.take count := by
  -- The neighbours start at the front of the memory and cover all of it.
  have total : (buffers.map List.length).sum = buffers.flatten.length := List.length_flatten.symm
  have room : min count buffers.flatten.length = count := Nat.min_eq_left within
  simp only [spreadBuffer, DataBuffer.firstBytes, SegmentList.gather, gathered_neighbours,
    List.length_replicate, total, room, slice, List.drop_zero]
  apply overwrite_all
  rw [List.length_replicate, List.length_take, room]

/-- Bytes are stored over buffers laid one after another as over the front of one buffer. -/
theorem fill_spreadBuffer (direction : Direction) (buffers : List Bytes) {bytes : Bytes}
    (within : bytes.length ≤ buffers.flatten.length) :
    (spreadBuffer direction buffers).fill bytes = overwrite buffers.flatten 0 bytes := by
  -- Scattering over neighbours writes one stretch, which starts at the front.
  have total : (buffers.map List.length).sum = buffers.flatten.length := List.length_flatten.symm
  have all : bytes.take buffers.flatten.length = bytes := List.take_of_length_le within
  simp only [spreadBuffer, DataBuffer.fill, SegmentList.scatter]
  rw [scattered_neighbours _ _ _ _ (by rw [total]; omega), total, all]

/-- Buffers laid one after another hold the bytes of one buffer. -/
theorem joined_spreadBuffer (direction : Direction) (buffers : List Bytes) :
    (spreadBuffer direction buffers).joined = .plain direction buffers.flatten := by
  -- The first bytes, as many as there are, are all of them.
  have total : (spreadBuffer direction buffers).length = buffers.flatten.length :=
    List.length_flatten.symm
  rw [DataBuffer.joined, total, firstBytes_spreadBuffer direction buffers (Nat.le_refl _),
    List.take_length]
  rfl

/-- No transfer moves more bytes than there is room for. -/
theorem TransferScript.moves_le (entry : TransferScript) (length : Nat) : entry.moves length ≤ length := by
  unfold moves
  split <;> omega

/-- The card sends as many bytes as it is asked for. -/
theorem ScriptedHost.length_stream (host : ScriptedHost) (count : Nat) :
    (host.stream count).length = count := by
  simp [stream, sequenceBytes]

/-- A scripted host does not tell buffers laid one after another from a single buffer. -/
theorem ScriptedHost.transfer_spreadBuffer (host : ScriptedHost) (command : Command)
    (direction : Direction) (buffers : List Bytes) (blockSize blockCount : UInt32) :
    host.transfer { command, data := some {
        blockSize, blockCount, buffer := spreadBuffer direction buffers } } =
      host.transfer { command, data := some {
        blockSize, blockCount, buffer := .plain direction buffers.flatten } } := by
  -- Both buffers have the same length, so the same number of bytes moves.
  have length : (spreadBuffer direction buffers).length = buffers.flatten.length :=
    List.length_flatten.symm
  have moves_le := host.nextTransfer.moves_le buffers.flatten.length
  cases direction with
  | fromCard =>
    have stream : (({ host with transfers := host.transfers + 1 } : ScriptedHost).stream
        (host.nextTransfer.moves buffers.flatten.length)).length ≤ buffers.flatten.length := by
      rw [ScriptedHost.length_stream]
      exact moves_le
    have filled := fill_spreadBuffer .fromCard buffers stream
    simp only [ScriptedHost.transfer, ScriptedHost.moveData, length, filled]
    rfl
  | toCard =>
    have first := firstBytes_spreadBuffer .toCard buffers moves_le
    simp only [ScriptedHost.transfer, ScriptedHost.moveData, length, first]
    rfl

/-- A scripted host leaves the length of a buffer as it is. -/
theorem ScriptedHost.length_transfer_memory (host : ScriptedHost) (command : Command)
    (direction : Direction) (bytes : Bytes) (blockSize blockCount : UInt32) :
    (host.transfer { command, data := some {
      blockSize, blockCount, buffer := .plain direction bytes } }).1.memory.length = bytes.length := by
  cases direction with
  | fromCard =>
    -- No more bytes come from the card than the buffer has room for.
    change (overwrite bytes 0 (({ host with transfers := host.transfers + 1 } : ScriptedHost).stream
      (host.nextTransfer.moves bytes.length))).length = bytes.length
    apply length_overwrite
    rw [Nat.zero_add, ScriptedHost.length_stream]
    exact host.nextTransfer.moves_le bytes.length
  | toCard => rfl

section Run

variable {σ : Type} (model : HostModel σ) (state : BusState σ)

variable {state} (config : DeviceConfig) (request : BlockRequest)

/-- Up to eight buffers go with one command, or are refused for their total length. -/
theorem run_moveSpread_free (buffers : List Bytes)
    (valid : ValidTarget request.function request.address) (few : buffers.length ≤ 8)
    (free : state.locked = false) :
    (moveSpread config request buffers).run model state =
      match spreadBlockCount buffers.flatten.length request.blockSize with
      | .error cause => ⟨(.error cause, buffers), state, [], []⟩
      | .ok blockCount =>
        let mode := ExtendedMode.ofTransfer blockCount config.incrementAddress
        let moved := (moveExtended
          (request.access mode request.address (countField mode blockCount request.blockSize))
          { blockSize := request.blockSize, blockCount,
            buffer := spreadBuffer request.direction buffers }).run model { state with locked := true }
        ⟨(moved.value.1, splitLengths (buffers.map List.length) moved.value.2),
          { moved.state with locked := false }, moved.exchanges, moved.lines⟩ := by
  -- The lock is taken and given back around the list, the checks and the command.
  have list : SegmentList.ofLengths (buffers.map List.length) =
      .ok ⟨neighbours 0 (buffers.map List.length), buffers.flatten.length⟩ := by
    rw [SegmentList.ofLengths_eq, if_pos (by simpa using few), List.length_flatten]
  simp only [moveSpread, valid.check, run_holdingBus_free model config buffers _ free, Bus.run_bind,
    Bus.run_pure, moveLaidOut, list]
  cases counted : spreadBlockCount buffers.flatten.length request.blockSize with
  | error cause =>
    have released : ({ state with locked := false } : BusState σ) = state := by rw [← free]
    simp [splitLengths_flatten, released]
  | ok blockCount =>
    simp [spreadBuffer, List.length_flatten]

/-- An accepted request over several buffers is one command, and nothing else. -/
theorem run_moveSpread_accepted (buffers : List Bytes)
    (accepted : AcceptedSpread request.function request.address request.blockSize buffers)
    (free : state.locked = false) :
    let blockCount := UInt32.ofNat (buffers.flatten.length / request.blockSize.toNat)
    let mode := ExtendedMode.ofTransfer blockCount config.incrementAddress
    let moved := (moveExtended
      (request.access mode request.address (countField mode blockCount request.blockSize))
      { blockSize := request.blockSize, blockCount,
        buffer := spreadBuffer request.direction buffers }).run model { state with locked := true }
    (moveSpread config request buffers).run model state =
      ⟨(moved.value.1, splitLengths (buffers.map List.length) moved.value.2),
        { moved.state with locked := false }, moved.exchanges, moved.lines⟩ := by
  rw [run_moveSpread_free model config request buffers accepted.toValidTarget accepted.few free,
    accepted.counted]

/-- The only call of an accepted request decides its result, and its memory is cut into the buffers. -/
theorem moveSpread_issued (buffers : List Bytes)
    (accepted : AcceptedSpread request.function request.address request.blockSize buffers)
    (free : state.locked = false) :
    let moved := (moveSpread config request buffers).run model state
    ∃ reply : TransferReply,
      moved.value = (reply.verdict, splitLengths (buffers.map List.length) reply.memory)
        ∧ moved.exchanges =
          [⟨.transfer (request.spreadTransfer config.incrementAddress buffers), reply⟩] := by
  -- The lock and the list around the command are no calls.
  let blockCount := UInt32.ofNat (buffers.flatten.length / request.blockSize.toNat)
  let mode := ExtendedMode.ofTransfer blockCount config.incrementAddress
  obtain ⟨value, -, -, exchanges⟩ := run_moveExtended model { state with locked := true }
    (request.access mode request.address (countField mode blockCount request.blockSize))
    { blockSize := request.blockSize, blockCount, buffer := spreadBuffer request.direction buffers }
  rw [run_moveSpread_accepted model config request buffers accepted free]
  exact ⟨_, congrArg (fun value => (value.1, splitLengths _ value.2)) value, exchanges⟩

end Run

/-- The same transfer with its bytes in one stretch. -/
def Transfer.joined (asked : Transfer) : Transfer :=
  { asked with data := asked.data.map fun data => { data with buffer := data.buffer.joined } }

/-- The same exchange with the bytes of its transfer in one stretch. -/
def Exchange.joined : Exchange → Exchange
  | ⟨.transfer asked, reply⟩ => ⟨.transfer asked.joined, reply⟩
  | other => other

/-- Two runs that only differ in how the bytes of their transfers are spread. -/
structure Outcome.Joins {σ α β : Type} (spread : Outcome σ α) (plain : Outcome σ β) : Prop where
  /-- Host, lock and logger end in the same state. -/
  state : spread.state = plain.state
  /-- The calls carry the same commands and bytes, and get the same answers. -/
  exchanges : spread.exchanges.map Exchange.joined = plain.exchanges
  /-- The log reads the same. -/
  lines : spread.lines = plain.lines

/-- Two runs issued one transfer each, with the same command, measures and answer. -/
def IssuedAlike (spread plain : List Exchange) : Prop :=
  ∃ command blockSize blockCount spreadBuffer plainBuffer reply,
    spread = [⟨.transfer { command, data := some {
        blockSize, blockCount, buffer := spreadBuffer } }, reply⟩]
      ∧ plain = [⟨.transfer { command, data := some {
        blockSize, blockCount, buffer := plainBuffer } }, reply⟩]
      ∧ spreadBuffer.length = plainBuffer.length

/-- On a scripted host, one command moves spread bytes as it moves joined ones. -/
theorem moveExtended_joins (state : BusState ScriptedHost) (access : ExtendedAccess)
    (direction : Direction) (buffers : List Bytes) (blockSize blockCount : UInt32) :
    let spread := (moveExtended access
      { blockSize, blockCount, buffer := spreadBuffer direction buffers }).run ScriptedHost.model state
    let plain := (moveExtended access
      { blockSize, blockCount, buffer := .plain direction buffers.flatten }).run ScriptedHost.model state
    spread.value = plain.value ∧ spread.Joins plain
      ∧ IssuedAlike spread.exchanges plain.exchanges
      ∧ plain.value.2.length = buffers.flatten.length := by
  -- The host gives the same answer, and everything after that depends on the answer alone.
  intro spread plain
  have answer : extendedAnswer ScriptedHost.model state access
      { blockSize, blockCount, buffer := spreadBuffer direction buffers } =
      extendedAnswer ScriptedHost.model state access
        { blockSize, blockCount, buffer := .plain direction buffers.flatten } :=
    state.host.transfer_spreadBuffer (.ioExtended access) direction buffers blockSize blockCount
  have length := state.host.length_transfer_memory (.ioExtended access) direction buffers.flatten
    blockSize blockCount
  have spreadRun : spread = _ := run_moveExtended_eq ScriptedHost.model state access _
  have plainRun : plain = _ := run_moveExtended_eq ScriptedHost.model state access _
  rw [answer] at spreadRun
  obtain ⟨-, -, -, silent⟩ := run_concluded ScriptedHost.model
    { state with host := (extendedAnswer ScriptedHost.model state access
        { blockSize, blockCount, buffer := .plain direction buffers.flatten }).2 }
    (.ioExtended access) (extendedAnswer ScriptedHost.model state access
      { blockSize, blockCount, buffer := .plain direction buffers.flatten }).1
  rw [spreadRun, plainRun]
  refine ⟨rfl, ⟨rfl, ?_, rfl⟩, ?_, length⟩
  · simp [silent, Exchange.joined, Transfer.joined, ExtendedAccess.transfer, joined_spreadBuffer]
  · exact ⟨_, _, _, _, _, _, congrArg (List.cons _) silent, congrArg (List.cons _) silent,
      List.length_flatten.symm⟩

/-- A write of several buffers is their move with the buffers dropped from the result. -/
theorem run_writeSpread {σ : Type} (model : HostModel σ) (state : BusState σ) (config : DeviceConfig)
    (function : UInt8) (address blockSize : UInt32) (buffers : List Bytes) :
    (writeSpread config function address blockSize buffers).run model state =
      let moved := (moveSpread config ⟨.toCard, function, address, blockSize⟩ buffers).run model state
      ⟨moved.value.1, moved.state, moved.exchanges, moved.lines⟩ := by
  simp only [writeSpread, Bus.run_bind, Bus.run_pure, List.append_nil]

end CardLink
