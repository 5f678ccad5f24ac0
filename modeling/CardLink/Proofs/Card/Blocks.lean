import CardLink.Proofs.Card
import CardLink.Proofs.Device.Spread

/-!
On a card, the commands of a block request mean one move of all its bytes, however they are cut into
commands or spread over buffers.
-/

namespace CardLink

/-- The first bytes of one stretch, as many as it holds, are the stretch. -/
@[simp] theorem firstBytes_plain (direction : Direction) (bytes : Bytes) :
    (DataBuffer.plain direction bytes).firstBytes (DataBuffer.plain direction bytes).length = bytes :=
  List.take_length

section Replay

variable (card : Card) (request : BlockRequest) (increments : Bool)

/-- A card takes a command of a request for a move of the buffer, if both count the same bytes. -/
theorem serve_request (blockMode : Bool) (count : Nat) (blockCount : UInt32) (buffer : DataBuffer)
    (valid : ValidTarget request.function request.address) (small : count < 512)
    (sameWay : buffer.direction = request.direction)
    (sameCount : (if blockMode then count * request.blockSize.toNat
      else if count = 0 then 512 else count) = buffer.length)
    (whole : buffer.length = blockCount.toNat * request.blockSize.toNat) :
    card.serve {
        command := ExtendedFields.command {
          write := request.direction = .toCard
          function := request.function.toNat
          blockMode
          increments
          address := request.address.toNat
          count }
        data := some { blockSize := request.blockSize, blockCount, buffer } } =
      some (card.move request.direction increments request.function.toNat request.address.toNat
        (buffer.firstBytes buffer.length)) := by
  -- Function, address and count fit their fields, so the card reads back what was meant.
  have fit : ExtendedFields.Fit {
      write := request.direction = .toCard
      function := request.function.toNat
      blockMode
      increments
      address := request.address.toNat
      count } :=
    ⟨Nat.lt_succ_of_le valid.function_le, Nat.lt_succ_of_le valid.address_le, small⟩
  rw [card.serve_command fit { blockSize := request.blockSize, blockCount, buffer } (by rw [sameWay])
    (sameCount.trans whole) whole, sameWay]

/-- A card takes the command for the first chunk of some blocks for a move of its bytes. -/
theorem serve_blockTransfer (blockCount : Nat) (bytes : Bytes)
    (whole : bytes.length = blockCount * request.blockSize.toNat)
    (valid : ValidTarget request.function request.address) :
    card.serve (request.blockTransfer increments blockCount bytes 0) =
      some (card.move request.direction increments request.function.toNat request.address.toNat
        (bytes.take (511 * request.blockSize.toNat))) := by
  -- The first command starts at the address itself, and no count exceeds its field.
  have start := addressBehind_zero increments valid.address_le
  have length : (DataBuffer.plain request.direction
      (bytes.take (511 * request.blockSize.toNat))).length =
      min 511 blockCount * request.blockSize.toNat := request.length_firstChunk whole
  have word : (UInt32.ofNat (min 511 blockCount)).toNat = min 511 blockCount := by
    rw [UInt32.toNat_ofNat']
    omega
  simp only [BlockRequest.blockTransfer, Nat.mul_zero, Nat.sub_zero, start,
    request.slice_firstChunk whole]
  rw [serve_request card request increments true (min 511 blockCount) _ _ valid (by omega) rfl
    length.symm (by rw [word, length]), firstBytes_plain]

/-- A count field in byte mode, where zero stands for 512, counts the bytes of one block. -/
theorem byteCount_blockSize {size : Nat} (positive : 1 ≤ size) (size_le : size ≤ 512) :
    (if size % 512 = 0 then 512 else size % 512) = size := by
  split <;> omega

/-- A card takes the only command of a request for one block for a move of its bytes. -/
theorem serve_byteTransfer (bytes : Bytes) (positive : 1 ≤ request.blockSize.toNat)
    (size_le : request.blockSize.toNat ≤ 512) (room : request.blockSize.toNat ≤ bytes.length)
    (valid : ValidTarget request.function request.address) :
    card.serve (request.byteTransfer increments bytes) =
      some (card.move request.direction increments request.function.toNat request.address.toNat
        (bytes.take request.blockSize.toNat)) := by
  -- The count field holds the block size, with zero for 512, and the only block holds as much.
  have length : (DataBuffer.plain request.direction (bytes.take request.blockSize.toNat)).length =
      request.blockSize.toNat := by
    rw [DataBuffer.length, List.length_take, Nat.min_eq_left room]
  have counted := byteCount_blockSize positive size_le
  rw [BlockRequest.byteTransfer, serve_request card request increments false _ 1 _ valid
    (Nat.mod_lt _ (by decide)) rfl (counted.trans length.symm) (by rw [length, UInt32.toNat_one,
    Nat.one_mul]), firstBytes_plain]

/-- A card takes the commands for some blocks for one move of all their bytes. -/
theorem replay_blockTransfers (count blockCount : Nat) (bytes : Bytes) (address : UInt32)
    (counted : count = (blockCount + 510) / 511)
    (whole : bytes.length = blockCount * request.blockSize.toNat)
    (valid : ValidTarget request.function address) :
    card.replay (((List.range count).map
        ({ request with address }.blockTransfer increments blockCount bytes)).map .transfer) =
      some (card.move request.direction increments request.function.toNat address.toNat bytes) := by
  -- The first command moves its chunk, and the others move the rest from behind it.
  induction count generalizing card blockCount bytes address with
  | zero =>
    have none : bytes = [] := by
      apply List.eq_nil_of_length_eq_zero
      rw [whole, show blockCount = 0 by omega, Nat.zero_mul]
    rw [none, Card.move_nil]
    rfl
  | succ count ih =>
    let chunk := bytes.take (511 * request.blockSize.toNat)
    -- The address behind the chunk fits a word, since it wraps at the end of the addresses.
    let behind := UInt32.ofNat (addressBehind increments address.toNat chunk.length)
    have moved : behind.toNat = addressBehind increments address.toNat chunk.length := by
      have fits := addressBehind_le increments chunk.length valid.address_le
      rw [UInt32.toNat_ofNat']
      omega
    have stillValid : ValidTarget request.function behind :=
      ⟨valid.function_le, by rw [moved]; exact addressBehind_le _ _ valid.address_le⟩
    have remaining : (bytes.drop (511 * request.blockSize.toNat)).length =
        (blockCount - 511) * request.blockSize.toNat := by
      rw [List.length_drop, whole, Nat.sub_mul]
    -- Behind the first command stands the plan of the request for the rest.
    have split := BlockRequest.map_blockTransfer_succ { request with address } increments bytes
      behind counted whole moved
    have served := serve_blockTransfer card { request with address } increments blockCount bytes
      whole valid
    rw [split, List.map_cons, card.replay_cons _ _ served,
      ih _ (blockCount - 511) _ behind (by omega) remaining stillValid, moved]
    -- Both moves together are the move of all bytes.
    have joined := card.move_append increments request.function.toNat address.toNat
      request.direction chunk (bytes.drop (511 * request.blockSize.toNat))
    rw [List.take_append_drop] at joined
    rw [joined]
    rfl

/-- A card takes the plan of an accepted request for one move of all bytes of its blocks. -/
theorem replay_plan (blockCount : UInt32) (buffer : Bytes)
    (accepted : AcceptedBlocks request.function request.address blockCount request.blockSize
      buffer.length) :
    card.replay ((request.plan increments blockCount.toNat buffer).map .transfer) =
      some (card.move request.direction increments request.function.toNat request.address.toNat
        (buffer.take (blockCount.toNat * request.blockSize.toNat))) := by
  -- One block is one command in byte mode, and several are commands in block mode.
  by_cases single : blockCount.toNat = 1
  · have room := accepted.room
    rw [single, Nat.one_mul] at room
    have served := serve_byteTransfer card request increments buffer accepted.size_pos
      (accepted.single_le single) room accepted.toValidTarget
    rw [BlockRequest.plan, if_pos single, List.map_singleton, card.replay_cons _ _ served, single,
      Nat.one_mul]
    simp [Card.replay]
  · -- Only the bytes of the blocks enter the plan.
    rw [← request.plan_take, BlockRequest.plan, if_neg single]
    exact replay_blockTransfers card request increments _ blockCount.toNat _ request.address rfl
      accepted.length_front accepted.toValidTarget

/-- A card takes the only command of several buffers for a move of the bytes in all of them. -/
theorem serve_spreadTransfer (buffers : List Bytes)
    (accepted : AcceptedSpread request.function request.address request.blockSize buffers) :
    card.serve (request.spreadTransfer increments buffers) =
      some (card.move request.direction increments request.function.toNat request.address.toNat
        buffers.flatten) := by
  let blockCount := UInt32.ofNat (buffers.flatten.length / request.blockSize.toNat)
  let mode := ExtendedMode.ofTransfer blockCount increments
  obtain ⟨word, some, whole⟩ := accepted.blockCount
  have length : (spreadBuffer request.direction buffers).length = buffers.flatten.length :=
    List.length_flatten.symm
  have few : blockCount.toNat ≤ 511 := by
    rw [word]
    exact accepted.blocks_le
  -- The count field holds the blocks, or the bytes of the only one.
  have counted : (if mode.blockMode then
        (countField mode blockCount request.blockSize).toNat % 512 * request.blockSize.toNat
      else if (countField mode blockCount request.blockSize).toNat % 512 = 0 then 512
      else (countField mode blockCount request.blockSize).toNat % 512) =
      buffers.flatten.length := by
    rw [countField, ExtendedMode.blockMode_ofTransfer]
    by_cases several : 1 < blockCount.toNat
    · rw [decide_eq_true several, if_pos rfl, if_pos rfl,
        Nat.mod_eq_of_lt (Nat.lt_succ_of_le few), whole]
    · have single : blockCount.toNat = 1 := Nat.le_antisymm (Nat.le_of_not_lt several) some
      rw [decide_eq_false several, if_neg Bool.false_ne_true, if_neg Bool.false_ne_true,
        byteCount_blockSize accepted.size_pos (accepted.single_le (word.symm.trans single)), whole,
        single, Nat.one_mul]
  -- All bytes of the buffers move, in the order of the buffers.
  have first := firstBytes_spreadBuffer request.direction buffers (Nat.le_refl _)
  change card.serve ((request.access mode request.address
    (countField mode blockCount request.blockSize)).transfer _) = _
  rw [ExtendedAccess.transfer, request.command_access mode request.address _ accepted.toValidTarget,
    serve_request card request mode.increments mode.blockMode _ blockCount _ accepted.toValidTarget
      (Nat.mod_lt _ (by decide)) rfl (counted.trans length.symm) (length.trans whole), length, first,
    List.take_length, ExtendedMode.increments_ofTransfer]

end Replay

section Run

variable {σ : Type} (model : HostModel σ) {state : BusState σ} (config : DeviceConfig) (card : Card)
  (request : BlockRequest)

/-- Without a failure, an accepted request means one move of the bytes of its blocks to a card. -/
theorem moveBlocks_replay (blockCount : UInt32) (buffer : Bytes)
    (accepted : AcceptedBlocks request.function request.address blockCount request.blockSize
      buffer.length)
    (fits : buffer.length ≤ config.lengthWidth.greatest) (free : state.locked = false) :
    let moved := (moveBlocks config request blockCount buffer).run model state
    (∀ exchange ∈ moved.exchanges, exchange.failed = false) →
      moved.value.1 = .ok ()
        ∧ card.replay (moved.exchanges.map Exchange.call) =
          some (card.move request.direction config.incrementAddress request.function.toNat
            request.address.toNat (buffer.take (blockCount.toNat * request.blockSize.toNat))) := by
  -- Without a failure all of the plan was issued, and the card takes the plan for one move.
  intro moved fine
  obtain ⟨ended, calls⟩ := (moveBlocks_follows model request config blockCount buffer accepted fits
    free).carriedOut.complete fine
  refine ⟨ended, ?_⟩
  rw [calls]
  exact replay_plan card request config.incrementAddress blockCount buffer accepted

/-- If a card feeds an accepted read, the blocks end as the bytes that it gives. -/
theorem moveBlocks_fed (reading : request.direction = .fromCard) (blockCount : UInt32)
    (buffer : Bytes)
    (accepted : AcceptedBlocks request.function request.address blockCount request.blockSize
      buffer.length)
    (fits : buffer.length ≤ config.lengthWidth.greatest) (free : state.locked = false) :
    let moved := (moveBlocks config request blockCount buffer).run model state
    let length := blockCount.toNat * request.blockSize.toNat
    (∀ exchange ∈ moved.exchanges, exchange.failed = false) → card.feeds moved.exchanges →
      moved.value.2 = card.given config.incrementAddress request.function.toNat
        request.address.toNat length ++ buffer.drop length := by
  -- The memories of the commands are what the card gave for them, one after another.
  intro moved length fine fed
  obtain ⟨ended, calls⟩ := (moveBlocks_follows model request config blockCount buffer accepted fits
    free).carriedOut.complete fine
  have replayed := replay_plan card request config.incrementAddress blockCount buffer accepted
  -- Every command of the plan reads into one stretch of memory.
  have reads : ∀ asked ∈ request.plan config.incrementAddress blockCount.toNat buffer,
      ∃ data bytes, asked.data = some data ∧ data.buffer = .plain .fromCard bytes := by
    intro asked member
    rw [← reading]
    exact request.buffer_of_mem_plan _ _ _ member
  have memories := card.memories_of_feeds _ moved.exchanges calls reads fed replayed
  rw [moveBlocks_memory model request config blockCount buffer accepted fits free ended, memories,
    reading, Card.move, accepted.length_front]

/-- Without a failure, an accepted request over several buffers means one move of all their bytes. -/
theorem moveSpread_replay (buffers : List Bytes)
    (accepted : AcceptedSpread request.function request.address request.blockSize buffers)
    (free : state.locked = false) :
    let moved := (moveSpread config request buffers).run model state
    (∀ exchange ∈ moved.exchanges, exchange.failed = false) →
      moved.value.1 = .ok ()
        ∧ card.replay (moved.exchanges.map Exchange.call) =
          some (card.move request.direction config.incrementAddress request.function.toNat
            request.address.toNat buffers.flatten) := by
  -- The only command decides the result, and it is the one that the card serves.
  intro moved fine
  obtain ⟨reply, value, exchanges⟩ := moveSpread_issued model config request buffers accepted free
  have unfailed : reply.failed = false := by
    apply fine ⟨.transfer _, reply⟩
    rw [exchanges]
    exact List.mem_cons_self
  have served := serve_spreadTransfer card request config.incrementAddress buffers accepted
  rw [value, exchanges]
  refine ⟨by simp [TransferReply.verdict, unfailed], ?_⟩
  rw [List.map_singleton, card.replay_cons _ _ served]
  simp [Card.replay]

/-- If a card feeds an accepted read over several buffers, they end as the bytes that it gives. -/
theorem moveSpread_fed (reading : request.direction = .fromCard) (buffers : List Bytes)
    (accepted : AcceptedSpread request.function request.address request.blockSize buffers)
    (free : state.locked = false) :
    let moved := (moveSpread config request buffers).run model state
    card.feeds moved.exchanges →
      moved.value.2.flatten = card.given config.incrementAddress request.function.toNat
          request.address.toNat buffers.flatten.length
        ∧ moved.value.2.map List.length = buffers.map List.length := by
  intro moved fed
  obtain ⟨reply, value, exchanges⟩ := moveSpread_issued model config request buffers accepted free
  have total : (buffers.map List.length).sum = buffers.flatten.length := List.length_flatten.symm
  have length := card.length_given config.incrementAddress request.function.toNat
    request.address.toNat buffers.flatten.length
  have served := serve_spreadTransfer card request config.incrementAddress buffers accepted
  rw [reading] at served
  -- The bytes given cover all of the memory that the buffers lie in.
  rw [exchanges] at fed
  obtain ⟨stored, -⟩ := (card.feeds_cons rfl served reply []).mp fed
  have memory : reply.memory = card.given config.incrementAddress request.function.toNat
      request.address.toNat buffers.flatten.length := by
    rw [stored]
    exact (fill_spreadBuffer _ _ (Nat.le_of_eq length)).trans
      (overwrite_all (Nat.le_of_eq length.symm))
  -- Cut into the buffers and joined again, they are the bytes given.
  rw [value, memory, flatten_splitLengths, total]
  refine ⟨List.take_of_length_le (Nat.le_of_eq length), ?_⟩
  exact lengths_splitLengths _ _ (by rw [total, length])

/--
Block transfers reach a card as their arguments say, however they are cut or spread.

A write without a failure stores its bytes in order from the address on, or puts them into the FIFO at
the address, and a read that the card feeds ends with the bytes of these registers or of this FIFO.
-/
theorem blocks_reach_card (function : UInt8) (address blockCount blockSize : UInt32) (buffer : Bytes)
    (buffers : List Bytes) (free : state.locked = false) :
    let increments := config.incrementAddress
    let length := blockCount.toNat * blockSize.toNat
    let total := buffers.flatten.length
    let written := (writeBlocks config function address blockCount blockSize buffer).run model state
    let read := (readBlocks config function address blockCount blockSize buffer).run model state
    let writtenSpread := (writeSpread config function address blockSize buffers).run model state
    let readSpread := (readSpread config function address blockSize buffers).run model state
    (AcceptedBlocks function address blockCount blockSize buffer.length
        ∧ buffer.length ≤ config.lengthWidth.greatest →
      ((∀ exchange ∈ written.exchanges, exchange.failed = false) →
        written.value = .ok ()
          ∧ card.replay (written.exchanges.map Exchange.call) =
            some ([], card.take increments function.toNat address.toNat (buffer.take length)))
      ∧ ((∀ exchange ∈ read.exchanges, exchange.failed = false) → card.feeds read.exchanges →
        let given := card.given increments function.toNat address.toNat length
        read.value = (.ok (), given ++ buffer.drop length)
          ∧ card.replay (read.exchanges.map Exchange.call) =
            some (given, card.afterGiving increments function.toNat address.toNat length)))
    ∧ (AcceptedSpread function address blockSize buffers →
      ((∀ exchange ∈ writtenSpread.exchanges, exchange.failed = false) →
        writtenSpread.value = .ok ()
          ∧ card.replay (writtenSpread.exchanges.map Exchange.call) =
            some ([], card.take increments function.toNat address.toNat buffers.flatten))
      ∧ ((∀ exchange ∈ readSpread.exchanges, exchange.failed = false) →
          card.feeds readSpread.exchanges →
        let given := card.given increments function.toNat address.toNat total
        readSpread.value.1 = .ok () ∧ readSpread.value.2.flatten = given
          ∧ readSpread.value.2.map List.length = buffers.map List.length
          ∧ card.replay (readSpread.exchanges.map Exchange.call) =
            some (given, card.afterGiving increments function.toNat address.toNat total))) := by
  -- A write is a move to the card whose buffer is dropped, and a read is a move from it.
  have plainWritten := run_writeBlocks model state config function address blockCount blockSize buffer
  have spreadWritten := run_writeSpread model state config function address blockSize buffers
  refine ⟨?_, ?_⟩
  · rintro ⟨accepted, fits⟩
    rw [plainWritten]
    refine ⟨moveBlocks_replay model config card ⟨.toCard, function, address, blockSize⟩ blockCount
      buffer accepted fits free, ?_⟩
    intro fine fed
    let request : BlockRequest := ⟨.fromCard, function, address, blockSize⟩
    obtain ⟨ended, replayed⟩ := moveBlocks_replay model config card request blockCount buffer accepted
      fits free fine
    have memory := moveBlocks_fed model config card request rfl blockCount buffer accepted fits free
      fine fed
    refine ⟨Prod.ext ended memory, replayed.trans ?_⟩
    rw [Card.move, accepted.length_front]
  · intro accepted
    rw [spreadWritten]
    refine ⟨moveSpread_replay model config card ⟨.toCard, function, address, blockSize⟩ buffers
      accepted free, ?_⟩
    intro fine fed
    let request : BlockRequest := ⟨.fromCard, function, address, blockSize⟩
    obtain ⟨ended, replayed⟩ := moveSpread_replay model config card request buffers accepted free fine
    obtain ⟨bytes, lengths⟩ := moveSpread_fed model config card request rfl buffers accepted free fed
    exact ⟨ended, bytes, lengths, replayed⟩

end Run

/-- A card whose registers count up from 10 across the end of the addresses. -/
def countingCard : Card where
  registers _ address := .ofNat (10 + (address + 2) % 2 ^ 17)
  taken _ _ := []
  ready _ _ place := .ofNat place

/-- Three blocks of two bytes cross the end of the addresses, out of one buffer as out of three. -/
theorem blocks_reach_card_across_end :
    let buffers : List Bytes := [[1, 2], [], [3, 4, 5, 6]]
    let buffer : Bytes := [1, 2, 3, 4, 5, 6, 7]
    let config : DeviceConfig := { incrementAddress := true }
    let state : BusState ScriptedHost := {
      host := .ofScript { streamStart := 10, streamStep := 1 }, logger := { filter := .off } }
    let written := (writeBlocks config 1 0x1FFFE 3 2 buffer).run ScriptedHost.model state
    let read := (readBlocks config 1 0x1FFFE 3 2 buffer).run ScriptedHost.model state
    let writtenSpread := (writeSpread config 1 0x1FFFE 2 buffers).run ScriptedHost.model state
    let readSpread := (readSpread config 1 0x1FFFE 2 buffers).run ScriptedHost.model state
    state.locked = false ∧ AcceptedBlocks 1 0x1FFFE 3 2 buffer.length
      ∧ buffer.length ≤ config.lengthWidth.greatest ∧ AcceptedSpread 1 0x1FFFE 2 buffers
      ∧ (∀ exchange ∈ written.exchanges, exchange.failed = false)
      ∧ (∀ exchange ∈ read.exchanges, exchange.failed = false)
      ∧ countingCard.feeds read.exchanges
      ∧ (∀ exchange ∈ writtenSpread.exchanges, exchange.failed = false)
      ∧ (∀ exchange ∈ readSpread.exchanges, exchange.failed = false)
      ∧ countingCard.feeds readSpread.exchanges
      ∧ countingCard.given true 1 0x1FFFE 6 = [10, 11, 12, 13, 14, 15]
      ∧ countingCard.replay (written.exchanges.map Exchange.call) =
        some ([], countingCard.take true 1 0x1FFFE [1, 2, 3, 4, 5, 6])
      ∧ read.value = (.ok (), [10, 11, 12, 13, 14, 15, 7])
      ∧ countingCard.replay (writtenSpread.exchanges.map Exchange.call) =
        some ([], countingCard.take true 1 0x1FFFE [1, 2, 3, 4, 5, 6])
      ∧ readSpread.value.2.flatten = [10, 11, 12, 13, 14, 15] := by
  intro buffers buffer config state written read writtenSpread readSpread
  have free : state.locked = false := rfl
  have accepted : AcceptedBlocks 1 0x1FFFE 3 2 buffer.length :=
    ⟨⟨by decide, by decide⟩, by decide, by decide, by decide, by decide, by decide⟩
  have fits : buffer.length ≤ config.lengthWidth.greatest := by decide
  have acceptedSpread : AcceptedSpread 1 0x1FFFE 2 buffers :=
    ⟨⟨by decide, by decide⟩, by decide, by decide, by decide, by decide, by decide, by decide,
      by decide⟩
  -- The host answers every call without a failure, and sends what the card holds.
  have writtenFine : ∀ exchange ∈ written.exchanges, exchange.failed = false := by decide
  have readFine : ∀ exchange ∈ read.exchanges, exchange.failed = false := by decide
  have spreadFine : ∀ exchange ∈ writtenSpread.exchanges, exchange.failed = false := by decide
  have readSpreadFine : ∀ exchange ∈ readSpread.exchanges, exchange.failed = false := by decide
  have given : countingCard.given true 1 0x1FFFE 6 = [10, 11, 12, 13, 14, 15] := by decide
  have feeds : countingCard.feeds read.exchanges := by decide
  have spreadFeeds : countingCard.feeds readSpread.exchanges := by decide
  obtain ⟨plain, spread⟩ := blocks_reach_card ScriptedHost.model config countingCard 1 0x1FFFE 3 2
    buffer buffers free
  obtain ⟨plainWrite, plainRead⟩ := plain ⟨accepted, fits⟩
  obtain ⟨spreadWrite, spreadRead⟩ := spread acceptedSpread
  exact ⟨free, accepted, fits, acceptedSpread, writtenFine, readFine, feeds, spreadFine,
    readSpreadFine, spreadFeeds, given, (plainWrite writtenFine).2, (plainRead readFine feeds).1,
    (spreadWrite spreadFine).2, (spreadRead readSpreadFine spreadFeeds).2.1⟩

end CardLink
