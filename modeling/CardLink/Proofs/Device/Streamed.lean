import CardLink.Proofs.Device.Request

/-!
What a read leaves in the memory of the caller: the bytes that the card sent at the front of each chunk
that was issued, and the bytes from before everywhere else.
-/

namespace CardLink

/-- The number of bytes that a transfer has room for. -/
def Transfer.room (asked : Transfer) : Nat :=
  match asked.data with
  | none => 0
  | some data => data.buffer.length

namespace ScriptedHost

/-- The script of the transfer behind so many others. -/
def laterTransfer (host : ScriptedHost) (others : Nat) : TransferScript :=
  host.script.transfers[host.transfers + others]?.getD host.script.furtherTransfers

/-- How many bytes the next transfers move, in terms of the room that each of them has. -/
def movesOver (host : ScriptedHost) (rooms : List Nat) : List Nat :=
  rooms.mapIdx fun place room => (host.laterTransfer place).moves room

/-- The byte at a place of the stream that the card sends. -/
def streamByte (host : ScriptedHost) (place : Nat) : UInt8 :=
  sequenceByte host.script.streamStart host.script.streamStep place

/-- The host behind a transfer in which the card sent so many bytes. -/
def behindRead (host : ScriptedHost) (count : Nat) : ScriptedHost :=
  { host with transfers := host.transfers + 1, sent := host.sent + count }

variable (host : ScriptedHost)

theorem movesOver_cons (room : Nat) (rooms : List Nat) :
    let moves := host.nextTransfer.moves room
    host.movesOver (room :: rooms) = moves :: (host.behindRead moves).movesOver rooms := by
  -- One transfer further on, every script is one place nearer.
  simp only [movesOver, List.mapIdx_cons]
  congr 2
  funext place room
  simp only [laterTransfer, behindRead]
  congr 3
  omega

theorem stream_getElem? {count index : Nat} (within : index < count) :
    (host.stream count)[index]? = some (host.streamByte (host.sent + index)) := by
  -- The stream runs on from the byte that the card sends next.
  simp [stream, sequenceBytes, streamByte, within]

end ScriptedHost

/--
A memory of consecutive chunks behind a read that issued the first of them.

Each of these took bytes at its front, which are the next ones that the card sends, and no other byte has
changed.
-/
structure StreamedInto (host last : ScriptedHost) (rooms : List Nat) (issued : Nat)
    (before after : Bytes) : Prop where
  /-- No byte was added or taken away. -/
  length_eq : after.length = before.length
  /-- The bytes of the card are at the front of the chunks, in order. -/
  moved : ∀ place < issued, ∀ index < (host.movesOver rooms).getD place 0,
    after[(rooms.take place).sum + index]? =
      some (host.streamByte (host.sent + ((host.movesOver rooms).take place).sum + index))
  /-- Every other byte is as it was. -/
  kept : ∀ index,
    (∀ place < issued, index < (rooms.take place).sum
      ∨ (rooms.take place).sum + (host.movesOver rooms).getD place 0 ≤ index) →
    after[index]? = before[index]?
  /-- The card went on by the bytes that were moved. -/
  sent : last.sent = host.sent + ((host.movesOver rooms).take issued).sum

namespace StreamedInto

variable {host last : ScriptedHost} {rooms : List Nat} {issued : Nat} {before after : Bytes}

/-- Without a transfer, nothing moves. -/
theorem of_none (host : ScriptedHost) (rooms : List Nat) (memory : Bytes) :
    StreamedInto host host rooms 0 memory memory :=
  ⟨rfl, nofun, fun _ _ => rfl, rfl⟩

/-- A transfer in front of others fills the front of its own chunk. -/
theorem cons (chunk : Bytes) (rest : StreamedInto (host.behindRead (host.nextTransfer.moves chunk.length))
      last rooms issued before after) :
    let moves := host.nextTransfer.moves chunk.length
    StreamedInto host last (chunk.length :: rooms) (issued + 1) (chunk ++ before)
      (host.stream moves ++ chunk.drop moves ++ after) := by
  -- The chunk of the transfer stands in front, as long as it was, and the others begin behind it.
  intro moves
  have fits : moves ≤ chunk.length := host.nextTransfer.moves_le _
  have front : (host.stream moves ++ chunk.drop moves).length = chunk.length := by
    rw [List.length_append, host.length_stream, List.length_drop]
    omega
  have others := host.movesOver_cons chunk.length rooms
  dsimp only at others
  refine ⟨?_, ?_, ?_, ?_⟩
  · rw [List.length_append, front, rest.length_eq, List.length_append]
  · rintro (_ | place) within index short
    · -- The first chunk starts with the next byte of the stream.
      rw [others] at short
      have early : index < moves := short
      rw [List.take_zero, List.take_zero, List.sum_nil, Nat.zero_add, Nat.add_zero, List.append_assoc,
        List.getElem?_append_left (by rw [host.length_stream]; exact early), host.stream_getElem? early]
    · -- The other chunks lie behind it, and so do their bytes in the stream.
      rw [others] at short ⊢
      have behind := rest.moved place (Nat.lt_of_succ_lt_succ within) index short
      rw [List.take_succ_cons, List.take_succ_cons, List.sum_cons, List.sum_cons, Nat.add_assoc,
        List.getElem?_append_right (by omega), front, Nat.add_sub_cancel_left, behind]
      simp only [ScriptedHost.streamByte, ScriptedHost.behindRead]
      congr 2
      omega
  · intro index outside
    rw [others] at outside
    by_cases early : index < chunk.length
    · -- What the first transfer did not reach is the end of its chunk.
      have reached : moves ≤ index := by simpa using outside 0 (Nat.succ_pos _)
      rw [List.getElem?_append_left (by rw [front]; exact early),
        List.getElem?_append_right (by rw [host.length_stream]; exact reached), host.length_stream,
        List.getElem?_drop, Nat.add_sub_cancel' reached, List.getElem?_append_left early]
    · -- Behind the first chunk, the others decide.
      have late : chunk.length ≤ index := Nat.le_of_not_lt early
      rw [List.getElem?_append_right (by rw [front]; exact late), front,
        List.getElem?_append_right late]
      apply rest.kept
      intro place within
      have further := outside (place + 1) (Nat.succ_lt_succ within)
      rw [List.take_succ_cons, List.sum_cons, List.getD_cons_succ] at further
      omega
  · rw [rest.sent, others, List.take_succ_cons, List.sum_cons]
    simp only [ScriptedHost.behindRead]
    omega

/-- One transfer alone fills the front of its chunk. -/
theorem single (host : ScriptedHost) (chunk : Bytes) :
    let moves := host.nextTransfer.moves chunk.length
    StreamedInto host (host.behindRead moves) [chunk.length] 1 chunk
      (host.stream moves ++ chunk.drop moves) := by
  simpa using cons chunk (.of_none (host.behindRead (host.nextTransfer.moves chunk.length)) [] [])

/-- Bytes behind the last chunk have no part in it. -/
theorem append (streamed : StreamedInto host last rooms issued before after) (behind : Bytes) :
    StreamedInto host last rooms issued (before ++ behind) (after ++ behind) := by
  -- A byte that was moved is one of the memory, and so are its neighbours in front.
  obtain ⟨length_eq, moved, kept, sent⟩ := streamed
  refine ⟨by simp [length_eq], ?_, ?_, sent⟩
  · intro place within index short
    have byte := moved place within index short
    obtain ⟨inside, -⟩ := List.getElem?_eq_some_iff.mp byte
    rw [List.getElem?_append_left inside, byte]
  · intro index outside
    by_cases inside : index < after.length
    · rw [List.getElem?_append_left inside, kept index outside,
        List.getElem?_append_left (by omega)]
    · rw [List.getElem?_append_right (by omega), List.getElem?_append_right (by omega), length_eq]

end StreamedInto

section Read

variable (state : BusState ScriptedHost)

/-- One extended transfer fills the front of its buffer with the next bytes that the card sends. -/
theorem moveExtended_streams (access : ExtendedAccess) (blockSize blockCount : UInt32) (chunk : Bytes) :
    let data : DataPhase := { blockSize, blockCount, buffer := .plain .fromCard chunk }
    let moved := (moveExtended access data).run ScriptedHost.model state
    let moves := state.host.nextTransfer.moves chunk.length
    moved.exchanges.length = 1 ∧ moved.value.2 = state.host.stream moves ++ chunk.drop moves
      ∧ moved.state.host = state.host.behindRead moves := by
  -- The bytes move before anyone looks at the status, so a fault does not keep them away.
  intro data moved moves
  obtain ⟨value, host, -, exchanges⟩ := run_moveExtended ScriptedHost.model state access data
  have written : overwrite chunk 0 (state.host.stream moves) =
      state.host.stream moves ++ chunk.drop moves := by
    rw [overwrite, List.take_zero, List.nil_append, Nat.zero_add, state.host.length_stream]
  refine ⟨by rw [exchanges]; rfl, ?_, host⟩
  rw [value, ← written]
  rfl

/-- So does one over several buffers. -/
theorem moveExtended_spread_streams (access : ExtendedAccess) (blockSize blockCount : UInt32)
    (buffers : List Bytes) :
    let data : DataPhase := { blockSize, blockCount, buffer := spreadBuffer .fromCard buffers }
    let moved := (moveExtended access data).run ScriptedHost.model state
    let moves := state.host.nextTransfer.moves buffers.flatten.length
    moved.exchanges.length = 1
      ∧ moved.value.2 = state.host.stream moves ++ buffers.flatten.drop moves
      ∧ moved.state.host = state.host.behindRead moves := by
  -- Nothing but the buffer tells it from the transfer over one buffer with the same bytes.
  obtain ⟨value, joins, -, -⟩ :=
    moveExtended_joins state access .fromCard buffers blockSize blockCount
  obtain ⟨one, memory, host⟩ :=
    moveExtended_streams state access blockSize blockCount buffers.flatten
  dsimp only
  rw [value, joins.state]
  refine ⟨?_, memory, host⟩
  rw [← one, ← joins.exchanges, List.length_map]

/-- Chunks that are read one after another are filled one after another, up to the first failure. -/
theorem moveChunks_streams (request : BlockRequest) (fromCard : request.direction = .fromCard)
    (mode : ExtendedMode) (chunks : List Bytes) (address : UInt32) :
    let moved := (moveChunks request mode chunks address).run ScriptedHost.model state
    StreamedInto state.host moved.state.host (chunks.map List.length) moved.exchanges.length
      chunks.flatten moved.value.2 := by
  -- Each command fills its own chunk, and leaves the host where the next one takes over.
  induction chunks generalizing state address with
  | nil => exact .of_none _ _ _
  | cons chunk rest ih =>
    rw [run_moveChunks_cons, fromCard]
    dsimp only
    generalize UInt32.ofNat _ = blocks
    obtain ⟨one, memory, host⟩ := moveExtended_streams state (request.access mode address blocks)
      request.blockSize blocks chunk
    generalize Bus.run ScriptedHost.model (moveExtended _ _) state = first at one memory host ⊢
    cases first.value.1 with
    | error cause =>
      -- A failure leaves the other chunks as they are.
      dsimp only
      rw [one, memory, host]
      exact .cons chunk (.of_none _ _ _)
    | ok done =>
      have others := ih first.state (nextAddress mode address chunk.length)
      dsimp only at others ⊢
      rw [host] at others
      rw [List.length_append, one, memory, Nat.add_comm]
      exact .cons chunk others

/-- The chunks of some blocks are as long as the commands for them have room. -/
theorem map_room_plan (request : BlockRequest) (increments : Bool) {blockCount : Nat} {bytes : Bytes}
    (several : blockCount ≠ 1) (positive : 1 ≤ request.blockSize.toNat)
    (whole : bytes.length = blockCount * request.blockSize.toNat) :
    (request.plan increments blockCount bytes).map Transfer.room =
      (chunks (chunkLength request.blockSize) bytes).map List.length := by
  have length : chunkLength request.blockSize = 511 * request.blockSize.toNat := rfl
  rw [BlockRequest.plan, if_neg several, chunks, length, whole, chunkCount_eq _ positive, pieces_eq,
    List.map_map, List.map_map]
  apply List.map_congr_left
  intro place _
  -- Behind the commands in front, whole blocks are left.
  have left : bytes.length - 511 * request.blockSize.toNat * place =
      (blockCount - 511 * place) * request.blockSize.toNat := by
    rw [whole, Nat.sub_mul, Nat.mul_right_comm]
  simp only [Function.comp_apply, Transfer.room, BlockRequest.blockTransfer, DataBuffer.length, slice,
    List.length_take, List.length_drop, left, Nat.mul_min_mul_right, Nat.min_assoc, Nat.min_self]

/-- Reading exactly the bytes of an accepted request fills the chunks of its plan. -/
theorem moveAccepted_streams (config : DeviceConfig) (request : BlockRequest)
    (fromCard : request.direction = .fromCard) (blockCount : UInt32) (bytes : Bytes)
    (accepted : AcceptedBlocks request.function request.address blockCount request.blockSize
      bytes.length)
    (whole : bytes.length = blockCount.toNat * request.blockSize.toNat) :
    let moved := (moveAccepted config request blockCount bytes).run ScriptedHost.model state
    let plan := request.plan config.incrementAddress blockCount.toNat bytes
    StreamedInto state.host moved.state.host (plan.map Transfer.room) moved.exchanges.length bytes
      moved.value.2 := by
  -- The number of blocks decides between the two modes.
  have count_pos := accepted.count_pos
  dsimp only
  by_cases single : blockCount.toNat = 1
  · -- One command has room for the only block.
    have byteMode : (ExtendedMode.ofTransfer blockCount config.incrementAddress).blockMode = false := by
      simp [single]
    have room : (request.plan config.incrementAddress blockCount.toNat bytes).map Transfer.room =
        [bytes.length] := by
      rw [BlockRequest.plan, if_pos single, List.map_singleton, whole, single, Nat.one_mul]
      simp [Transfer.room, BlockRequest.byteTransfer, DataBuffer.length, whole, single]
    obtain ⟨one, memory, host⟩ := moveExtended_streams state
      (request.access (.ofTransfer blockCount config.incrementAddress) request.address
        request.blockSize) request.blockSize 1 bytes
    simp only [room, moveAccepted, byteMode, Bool.false_eq_true, if_false, fromCard]
    rw [one, memory, host]
    exact .single state.host bytes
  · -- Several blocks are read chunk by chunk.
    have block : (ExtendedMode.ofTransfer blockCount config.incrementAddress).blockMode = true := by
      simp
      omega
    have positive : 0 < chunkLength request.blockSize := Nat.mul_pos (by decide) accepted.size_pos
    have streamed := moveChunks_streams state request fromCard
      (.ofTransfer blockCount config.incrementAddress) (chunks (chunkLength request.blockSize) bytes)
      request.address
    rw [flatten_chunks positive] at streamed
    rw [map_room_plan request config.incrementAddress single accepted.size_pos whole, moveAccepted]
    simpa only [block, if_true] using streamed

variable {state} (config : DeviceConfig) (request : BlockRequest)
  (fromCard : request.direction = .fromCard)
include fromCard

/-- An accepted read of blocks fills the chunks of its plan, and leaves the bytes behind the blocks. -/
theorem moveBlocks_streams (blockCount : UInt32) (buffer : Bytes)
    (accepted : AcceptedBlocks request.function request.address blockCount request.blockSize
      buffer.length)
    (fits : buffer.length ≤ config.lengthWidth.greatest) :
    let moved := (moveBlocks config request blockCount buffer).run ScriptedHost.model state
    let plan := request.plan config.incrementAddress blockCount.toNat buffer
    let length := blockCount.toNat * request.blockSize.toNat
    StreamedInto state.host moved.state.host (plan.map Transfer.room) moved.exchanges.length buffer
        moved.value.2
      ∧ moved.value.2.drop length = buffer.drop length := by
  rw [moveBlocks_eq, accepted.blockLength fits]
  dsimp only
  cases locked : state.locked with
  | true =>
    -- Whoever does not get the bus reads nothing.
    obtain ⟨value, host, -, exchanges⟩ := run_locking_held ScriptedHost.model config
      (fun cause => (Except.error cause, buffer)) _ locked
    rw [value, host, exchanges]
    exact ⟨.of_none _ _ _, rfl⟩
  | false =>
    -- The blocks are the front of the buffer, and the lock moves no byte.
    have streamed := moveAccepted_streams { state with locked := true } config request fromCard
      blockCount _ accepted.front accepted.length_front
    rw [request.plan_take config.incrementAddress buffer] at streamed
    rw [run_locking_free ScriptedHost.model config _ _ locked, Bus.run_map]
    have filled := streamed.append (buffer.drop (blockCount.toNat * request.blockSize.toNat))
    rw [List.take_append_drop] at filled
    exact ⟨filled, List.drop_left' (streamed.length_eq.trans accepted.length_front)⟩

/-- An accepted read over several buffers fills them as one chunk, and leaves their lengths. -/
theorem moveSpread_streams (buffers : List Bytes)
    (accepted : AcceptedSpread request.function request.address request.blockSize buffers) :
    let moved := (moveSpread config request buffers).run ScriptedHost.model state
    StreamedInto state.host moved.state.host [buffers.flatten.length] moved.exchanges.length
        buffers.flatten moved.value.2.flatten
      ∧ moved.value.2.map List.length = buffers.map List.length := by
  cases locked : state.locked with
  | true =>
    -- Nor is anything read without the bus here.
    obtain ⟨value, host, -, exchanges⟩ := run_locking_held ScriptedHost.model config
      (fun cause => (Except.error cause, buffers))
      ((fun moved => (moved.1, splitLengths (buffers.map List.length) moved.2)) <$>
        moveLaidOut config request (buffers.map List.length) buffers.flatten) locked
    rw [moveSpread_eq, accepted.check]
    dsimp only
    rw [value, host, exchanges]
    exact ⟨.of_none _ _ _, rfl⟩
  | false =>
    let blockCount := UInt32.ofNat (buffers.flatten.length / request.blockSize.toNat)
    let mode := ExtendedMode.ofTransfer blockCount config.incrementAddress
    let access := request.access mode request.address (countField mode blockCount request.blockSize)
    obtain ⟨one, memory, host⟩ := moveExtended_spread_streams { state with locked := true } access
      request.blockSize blockCount buffers
    have streamed := StreamedInto.single state.host buffers.flatten
    have total : (buffers.map List.length).sum = buffers.flatten.length := List.length_flatten.symm
    -- The memory is as long as it was, so the buffers hold all of it again.
    have length := streamed.length_eq.trans total.symm
    rw [run_moveSpread_accepted ScriptedHost.model config request buffers accepted locked, fromCard]
    dsimp only at memory host length ⊢
    rw [one, memory, host, flatten_splitLengths, List.take_of_length_le (Nat.le_of_eq length)]
    exact ⟨streamed, lengths_splitLengths _ _ (Nat.le_of_eq length.symm)⟩

end Read

/--
A read leaves the bytes that the card sent at the front of each chunk that it issued, and every other byte
of the caller as it was, whatever its result is.

Several buffers are one chunk, and none of them changes its length.
-/
theorem reads_fill_chunks (state : BusState ScriptedHost) (config : DeviceConfig) (function : UInt8)
    (address blockSize : UInt32) :
    let request : BlockRequest := ⟨.fromCard, function, address, blockSize⟩
    (∀ (blockCount : UInt32) (buffer : Bytes),
      AcceptedBlocks function address blockCount blockSize buffer.length →
      buffer.length ≤ config.lengthWidth.greatest →
      let plan := request.plan config.incrementAddress blockCount.toNat buffer
      let length := blockCount.toNat * blockSize.toNat
      let read := (readBlocks config function address blockCount blockSize buffer).run
        ScriptedHost.model state
      (state.locked = false → CarriedOut plan read.exchanges read.value.1)
        ∧ StreamedInto state.host read.state.host (plan.map Transfer.room) read.exchanges.length
          buffer read.value.2
        ∧ read.value.2.drop length = buffer.drop length)
    ∧ ∀ buffers : List Bytes, AcceptedSpread function address blockSize buffers →
      let plan := [request.spreadTransfer config.incrementAddress buffers]
      let read := (readSpread config function address blockSize buffers).run ScriptedHost.model state
      (state.locked = false → CarriedOut plan read.exchanges read.value.1)
        ∧ StreamedInto state.host read.state.host [buffers.flatten.length] read.exchanges.length
          buffers.flatten read.value.2.flatten
        ∧ read.value.2.map List.length = buffers.map List.length := by
  -- Whether a request is carried out is known from its plan, and what it leaves from its chunks.
  intro request
  refine ⟨?_, ?_⟩
  · intro blockCount buffer accepted fits
    obtain ⟨streamed, behind⟩ := moveBlocks_streams config request rfl blockCount buffer accepted fits
    refine ⟨fun free => ?_, streamed, behind⟩
    exact (moveBlocks_follows ScriptedHost.model request config blockCount buffer accepted fits
      free).carriedOut
  · intro buffers accepted
    obtain ⟨streamed, lengths⟩ := moveSpread_streams config request rfl buffers accepted
    refine ⟨fun free => ?_, streamed, lengths⟩
    obtain ⟨reply, value, exchanges⟩ := moveSpread_issued ScriptedHost.model config request buffers
      accepted free
    have follows := FollowsPlan.single (request.spreadTransfer config.incrementAddress buffers) reply
    simp only [readSpread, request] at value exchanges follows ⊢
    rw [value, exchanges]
    exact follows.carriedOut

/-- Three of four bytes arrive before the card flags a fault, in one buffer and in three. -/
theorem reads_fill_chunks_faulty :
    let state : BusState ScriptedHost := {
      host := .ofScript {
        transfers := [{ response := [0x800], limit := some 3 }], streamStart := 10, streamStep := 1 }
      logger := { filter := .off } }
    let buffer : Bytes := [1, 2, 3, 4, 5, 6]
    let buffers : List Bytes := [[1], [], [2, 3, 4]]
    let read := (readBlocks {} 1 0x10 2 2 buffer).run ScriptedHost.model state
    let spread := (readSpread {} 1 0x10 2 buffers).run ScriptedHost.model state
    (AcceptedBlocks 1 0x10 2 2 buffer.length ∧ buffer.length ≤ LengthWidth.bits64.greatest)
      ∧ AcceptedSpread 1 0x10 2 buffers ∧ state.locked = false
      ∧ StreamedInto state.host read.state.host [4] 1 buffer read.value.2
      ∧ read.value.2 = [10, 11, 12, 4, 5, 6]
      ∧ StreamedInto state.host spread.state.host [4] 1 buffers.flatten spread.value.2.flatten
      ∧ spread.value.2 = [[10], [], [11, 12, 4]]
      ∧ (read.value.1 = .error (.bus .transferFailed) ∧ spread.value.1 = .error (.bus .transferFailed))
      ∧ read.state.host.sent = 3 := by
  intro state buffer buffers read spread
  have accepted : AcceptedBlocks 1 0x10 2 2 buffer.length :=
    ⟨⟨by decide, by decide⟩, by decide, by decide, by decide, by decide, by decide⟩
  have fits : buffer.length ≤ LengthWidth.bits64.greatest := by decide
  have acceptedSpread : AcceptedSpread 1 0x10 2 buffers :=
    ⟨⟨by decide, by decide⟩, by decide, by decide, by decide, by decide, by decide, by decide, by decide⟩
  obtain ⟨plain, several⟩ := reads_fill_chunks state {} 1 0x10 2
  obtain ⟨carried, streamed, -⟩ := plain 2 buffer accepted fits
  obtain ⟨carriedSpread, streamedSpread, -⟩ := several buffers acceptedSpread
  -- The fault that the card flags is that of the only call.
  have faulty : ¬ ∀ exchange ∈ read.exchanges, exchange.failed = false := by decide +kernel
  have faultySpread : ¬ ∀ exchange ∈ spread.exchanges, exchange.failed = false := by decide +kernel
  have failed := (carried rfl).otherwise fun fine => faulty ((carried rfl).ok_iff.mp fine).2
  have failedSpread := (carriedSpread rfl).otherwise fun fine =>
    faultySpread ((carriedSpread rfl).ok_iff.mp fine).2
  have rooms : (BlockRequest.plan ⟨.fromCard, 1, 0x10, 2⟩ false 2 buffer).map Transfer.room = [4] := by
    decide
  have calls : read.exchanges.length = 1 := by decide +kernel
  have callsSpread : spread.exchanges.length = 1 := by decide +kernel
  refine ⟨⟨accepted, fits⟩, acceptedSpread, rfl, ?_, by decide +kernel, ?_, by decide +kernel,
    ⟨failed.1, failedSpread.1⟩, by decide +kernel⟩
  · rw [← rooms, ← calls]
    exact streamed
  · rw [← callsSpread]
    exact streamedSpread

end CardLink
