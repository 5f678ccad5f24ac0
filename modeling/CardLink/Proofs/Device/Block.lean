import CardLink.Proofs.Command.Argument
import CardLink.Proofs.Device.Extended

/-! Block transfers issue the commands of a plan that their arguments fix, up to the first failure. -/

namespace CardLink

/-- A length is accepted for exactly these reasons, once the target is. -/
theorem blockLength_eq (config : DeviceConfig) (function : UInt8)
    (address blockCount blockSize : UInt32) (bufferLength : Nat) :
    blockLength config function address blockCount blockSize bufferLength =
      (checkTarget function address).bind fun _ =>
        if blockCount.toNat = 0 ∨ blockSize.toNat = 0 ∨ 2048 < blockSize.toNat
            ∨ (blockCount.toNat = 1 ∧ 512 < blockSize.toNat)
            ∨ config.lengthWidth.greatest < blockCount.toNat * blockSize.toNat
            ∨ bufferLength < blockCount.toNat * blockSize.toNat then .error .lengthInvalid
        else .ok (blockCount.toNat * blockSize.toNat) := by
  -- Four checks in a row refuse for the same cause, so they are one check.
  have noCount : blockCount = 0 ↔ blockCount.toNat = 0 := UInt32.toNat_inj.symm
  have oneCount : blockCount = 1 ↔ blockCount.toNat = 1 := UInt32.toNat_inj.symm
  have noSize : blockSize = 0 ↔ blockSize.toNat = 0 := UInt32.toNat_inj.symm
  have bigSize : blockSize > maxBlockSize ↔ 2048 < blockSize.toNat := UInt32.lt_iff_toNat_lt
  have longSize : blockSize > maxByteCount ↔ 512 < blockSize.toNat := UInt32.lt_iff_toNat_lt
  simp only [blockLength, noCount, oneCount, noSize, bigSize, longSize]
  cases checkTarget function address with
  | error cause => rfl
  | ok target =>
    simp only [bind, Except.bind, throw, throwThe, MonadExceptOf.throw, pure, Except.pure]
    grind

/-- A request for blocks that passes every check. -/
structure AcceptedBlocks (function : UInt8) (address blockCount blockSize : UInt32)
    (bufferLength : Nat) : Prop extends ValidTarget function address where
  /-- There is a block to move. -/
  count_pos : 1 ≤ blockCount.toNat
  /-- No block is empty. -/
  size_pos : 1 ≤ blockSize.toNat
  /-- A function can be set to the block size. -/
  size_le : blockSize.toNat ≤ 2048
  /-- One block alone goes in byte mode. -/
  single_le : blockCount.toNat = 1 → blockSize.toNat ≤ 512
  /-- The buffer holds all blocks. -/
  room : blockCount.toNat * blockSize.toNat ≤ bufferLength

/-- An accepted request moves all of its blocks, if its buffer fits the machine. -/
theorem AcceptedBlocks.blockLength {config : DeviceConfig} {function : UInt8}
    {address blockCount blockSize : UInt32} {bufferLength : Nat}
    (accepted : AcceptedBlocks function address blockCount blockSize bufferLength)
    (fits : bufferLength ≤ config.lengthWidth.greatest) :
    blockLength config function address blockCount blockSize bufferLength =
      .ok (blockCount.toNat * blockSize.toNat) := by
  -- Each reason to refuse contradicts one of the conditions.
  obtain ⟨target, count_pos, size_pos, size_le, single_le, room⟩ := accepted
  rw [blockLength_eq, target.check]
  simp only [Except.bind]
  rw [if_neg]
  rintro (none | empty | big | ⟨single, long⟩ | overflow | short)
  · omega
  · omega
  · omega
  · exact absurd (single_le single) (by omega)
  · omega
  · omega

/-- A length that was accepted is that of the blocks, and the request passes every check. -/
theorem AcceptedBlocks.of_blockLength {config : DeviceConfig} {function : UInt8}
    {address blockCount blockSize : UInt32} {bufferLength length : Nat}
    (accepted : CardLink.blockLength config function address blockCount blockSize bufferLength =
      .ok length) :
    length = blockCount.toNat * blockSize.toNat
      ∧ AcceptedBlocks function address blockCount blockSize bufferLength := by
  rw [blockLength_eq] at accepted
  by_cases valid : ValidTarget function address
  · -- With a valid target, no reason to refuse the length is left.
    rw [valid.check] at accepted
    simp only [Except.bind] at accepted
    split at accepted
    · cases accepted
    · rename_i fine
      exact ⟨(Except.ok.inj accepted).symm, valid, by omega, by omega, by omega, by omega, by omega⟩
  · obtain ⟨cause, refused⟩ := check_of_not_validTarget valid
    rw [refused] at accepted
    cases accepted

/-- The front of an accepted buffer holds exactly the bytes of the blocks. -/
theorem AcceptedBlocks.length_front {function : UInt8} {address blockCount blockSize : UInt32}
    {buffer : Bytes}
    (accepted : AcceptedBlocks function address blockCount blockSize buffer.length) :
    (buffer.take (blockCount.toNat * blockSize.toNat)).length =
      blockCount.toNat * blockSize.toNat := by
  rw [List.length_take, Nat.min_eq_left accepted.room]

/-- A request is accepted for the front of its buffer alone. -/
theorem AcceptedBlocks.front {function : UInt8} {address blockCount blockSize : UInt32}
    {buffer : Bytes}
    (accepted : AcceptedBlocks function address blockCount blockSize buffer.length) :
    AcceptedBlocks function address blockCount blockSize
      (buffer.take (blockCount.toNat * blockSize.toNat)).length :=
  { accepted with room := Nat.le_of_eq accepted.length_front.symm }

/-- The pieces of some bytes are slices at multiples of the length. -/
theorem pieces_eq (length count : Nat) (bytes : Bytes) :
    pieces length count bytes =
      (List.range count).map fun place => slice bytes (length * place) length := by
  -- Behind the first piece, every slice moves up by one length.
  induction count generalizing bytes with
  | zero => rfl
  | succ count ih =>
    rw [pieces, ih, List.range_succ_eq_map, List.map_cons, List.map_map]
    congr 1
    apply List.map_congr_left
    intro place _
    simp only [slice, Function.comp_apply, List.drop_drop]
    congr 2
    rw [Nat.mul_succ]
    omega

/-- The pieces of some bytes, put together again, are the front of the bytes. -/
theorem flatten_pieces (length count : Nat) (bytes : Bytes) :
    (pieces length count bytes).flatten = bytes.take (length * count) := by
  -- Each piece takes the front of what is left.
  induction count generalizing bytes with
  | zero => rfl
  | succ count ih =>
    rw [pieces, List.flatten_cons, ih, Nat.mul_succ, Nat.add_comm, List.take_add]

/-- Chunks cover all bytes. -/
theorem flatten_chunks {length : Nat} (positive : 0 < length) (bytes : Bytes) :
    (chunks length bytes).flatten = bytes := by
  rw [chunks, flatten_pieces]
  apply List.take_of_length_le
  -- The last chunk ends at most one length behind the bytes.
  have rounded := Nat.lt_mul_div_succ (bytes.length + length - 1) positive
  rw [Nat.mul_succ] at rounded
  omega

/-- A slice that ends before the cut is the same slice of all bytes. -/
theorem slice_take {bytes : Bytes} {offset length cut : Nat} (within : offset + length ≤ cut) :
    slice (bytes.take cut) offset length = slice bytes offset length := by
  -- The cut lies behind the slice, so it takes nothing away from it.
  rw [slice, slice, List.drop_take, List.take_take]
  congr 1
  omega

/-- As many chunks are needed as full commands fit into the blocks, rounded up. -/
theorem chunkCount_eq (blockCount : Nat) {size : Nat} (positive : 1 ≤ size) :
    (blockCount * size + 511 * size - 1) / (511 * size) = (blockCount + 510) / 511 := by
  -- The bytes that are missing to a whole block never make up another block.
  have regrouped : blockCount * size + 511 * size - 1 = size * (blockCount + 510) + (size - 1) := by
    have : size * (blockCount + 510) = blockCount * size + 510 * size := by
      rw [Nat.mul_comm, Nat.add_mul]
    omega
  have inBlocks : (size * (blockCount + 510) + (size - 1)) / size = blockCount + 510 := by
    rw [Nat.mul_add_div (by omega), Nat.div_eq_of_lt (by omega), Nat.add_zero]
  rw [Nat.mul_comm 511 size, ← Nat.div_div_eq_div_mul, Nat.mul_comm size 511, regrouped, inBlocks]

/-- The register address behind so many bytes of a request. -/
def addressBehind (increments : Bool) (address length : Nat) : Nat :=
  if increments then (address + length) % 2 ^ 17 else address

/-- Behind no bytes is the address itself. -/
theorem addressBehind_zero {address : Nat} (increments : Bool) (fits : address ≤ 0x1FFFF) :
    addressBehind increments address 0 = address := by
  unfold addressBehind
  split
  · omega
  · rfl

/-- Going on behind some bytes and then behind others is going on behind both. -/
theorem addressBehind_add (increments : Bool) (address first second : Nat) :
    addressBehind increments (addressBehind increments address first) second =
      addressBehind increments address (first + second) := by
  -- In fixed mode nothing moves, and remainders add up in the other.
  cases increments with
  | false => rfl
  | true =>
    simp only [addressBehind, if_true]
    omega

/-- An address behind some bytes fits its place. -/
theorem addressBehind_le {address : Nat} (increments : Bool) (length : Nat)
    (fits : address ≤ 0x1FFFF) : addressBehind increments address length ≤ 0x1FFFF := by
  unfold addressBehind
  split
  · omega
  · exact fits

/-- The next address is the one behind the bytes of the command before. -/
theorem toNat_nextAddress (mode : ExtendedMode) (address : UInt32) (length : Nat) :
    (nextAddress mode address length).toNat =
      addressBehind mode.increments address.toNat length := by
  -- A fixed address is its own successor, and the other one is added to and masked.
  unfold nextAddress addressBehind
  split
  · -- The mask keeps the low bits, which the width of a word does not reach.
    have masked : ((address + UInt32.ofNat length) &&& maxAddress).toNat =
        (address + UInt32.ofNat length).toNat % 2 ^ 17 := by
      rw [UInt32.toNat_and]
      exact Nat.and_two_pow_sub_one_eq_mod _ 17
    rw [masked, UInt32.toNat_add, UInt32.toNat_ofNat']
    omega
  · rfl

section Run

variable {σ : Type} (model : HostModel σ) (state : BusState σ)

/-- Chunks are moved one command at a time, and the first failure leaves the others as they are. -/
theorem run_moveChunks_cons (request : BlockRequest) (mode : ExtendedMode) (chunk : Bytes)
    (rest : List Bytes) (address : UInt32) :
    (moveChunks request mode (chunk :: rest) address).run model state =
      let blocks := UInt32.ofNat (chunk.length / request.blockSize.toNat)
      let first := (moveExtended (request.access mode address blocks)
        { blockSize := request.blockSize, blockCount := blocks,
          buffer := .plain request.direction chunk }).run model state
      match first.value.1 with
      | .error cause =>
        ⟨(.error cause, first.value.2 ++ rest.flatten), first.state, first.exchanges, first.lines⟩
      | .ok () =>
        let others := (moveChunks request mode rest (nextAddress mode address chunk.length)).run
          model first.state
        ⟨(others.value.1, first.value.2 ++ others.value.2), others.state,
          first.exchanges ++ others.exchanges, first.lines ++ others.lines⟩ := by
  -- The second part is chosen by the result of the command in front.
  rw [moveChunks, Bus.run_bind]
  dsimp only
  generalize Bus.run model (moveExtended _ _) state = first
  obtain ⟨⟨result, memory⟩, after, exchanges, lines⟩ := first
  cases result with
  | error cause => simp
  | ok done => simp

/-- Behind the memories of the commands issued, the bytes of the other chunks are as they were. -/
theorem moveChunks_memory (request : BlockRequest) (mode : ExtendedMode) (chunks : List Bytes)
    (address : UInt32) :
    let moved := (moveChunks request mode chunks address).run model state
    moved.value.2 = (moved.exchanges.map Exchange.memory).flatten
      ++ (chunks.drop moved.exchanges.length).flatten := by
  -- Each command stands for its own chunk, up to the first that fails.
  induction chunks generalizing state address with
  | nil => rfl
  | cons chunk rest ih =>
    rw [run_moveChunks_cons]
    dsimp only
    generalize UInt32.ofNat _ = blocks
    generalize phase : DataPhase.mk request.blockSize blocks _ _ = data
    obtain ⟨value, -, -, exchanges⟩ :=
      run_moveExtended model state (request.access mode address blocks) data
    rw [value, exchanges]
    dsimp only
    split
    · simp [Exchange.memory]
    · -- The commands behind this one work on their own chunks.
      generalize (Bus.run model (moveExtended _ _) state).state = next
      have others := ih next (nextAddress mode address chunk.length)
      simp [Exchange.memory, others]

end Run

end CardLink
