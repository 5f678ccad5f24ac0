import CardLink.Machine.Block
import CardLink.Proofs.Device.Block
import CardLink.Proofs.Machine

/-!
Block transfers from one buffer do not depend on how wide the machine is: no mishap happens to them, and
they issue the commands that they issue without a machine.
-/

namespace CardLink

/-- Bytes that one command in block mode can move: whole blocks, at least one and at most 511. -/
structure WholeChunk (blockSize : UInt32) (chunk : Bytes) : Prop where
  /-- There is a byte to move. -/
  pos : 0 < chunk.length
  /-- No block is left unfinished. -/
  whole : blockSize.toNat ∣ chunk.length
  /-- One command moves all blocks. -/
  length_le : chunk.length ≤ 511 * blockSize.toNat

/-- Some blocks are cut into chunks of whole blocks. -/
theorem WholeChunk.of_mem_chunks {blockCount : Nat} {blockSize : UInt32} {bytes chunk : Bytes}
    (positive : 1 ≤ blockSize.toNat) (whole : bytes.length = blockCount * blockSize.toNat)
    (member : chunk ∈ chunks (511 * blockSize.toNat) bytes) : WholeChunk blockSize chunk := by
  rw [chunks, whole, chunkCount_eq blockCount positive, pieces_eq] at member
  obtain ⟨place, begun, rfl⟩ := List.mem_map.mp member
  rw [List.mem_range] at begun
  -- Behind the full chunks before it, this one takes what is left, up to 511 blocks.
  have length : (slice bytes (511 * blockSize.toNat * place) (511 * blockSize.toNat)).length =
      min 511 (blockCount - 511 * place) * blockSize.toNat := by
    rw [slice, List.length_take, List.length_drop, whole, Nat.mul_right_comm, ← Nat.sub_mul,
      Nat.mul_min_mul_right]
  have some : 1 ≤ min 511 (blockCount - 511 * place) := by omega
  refine ⟨?_, ?_, ?_⟩
  · rw [length]
    exact Nat.mul_pos some positive
  · rw [length]
    exact Nat.dvd_mul_left _ _
  · rw [length]
    exact Nat.mul_le_mul_right _ (Nat.min_le_left _ _)

/-- A chunk is no longer than the longest command. -/
theorem WholeChunk.length_lt {blockSize : UInt32} {chunk : Bytes} (part : WholeChunk blockSize chunk)
    (size_le : blockSize.toNat ≤ 2048) : chunk.length < 2 ^ 20 := by
  have := part.length_le
  omega

namespace Machine

variable {width : LengthWidth}

/-- The same requests are accepted, with the same lengths. -/
theorem blockLength_eq (config : DeviceConfig) (function : UInt8)
    (address blockCount blockSize : UInt32) (bufferLength : LengthWord config.lengthWidth) :
    (blockLength function address blockCount blockSize bufferLength).map BitVec.toNat =
      CardLink.blockLength config function address blockCount blockSize bufferLength.toNat := by
  have missing := LengthWord.product?_eq_none_iff (.ofCount config.lengthWidth blockCount)
    (.ofCount config.lengthWidth blockSize)
  simp only [LengthWord.toNat_ofCount] at missing
  simp only [blockLength, CardLink.blockLength]
  cases checkTarget function address with
  | error cause => rfl
  | ok target =>
    -- The checks before the product do not look at lengths.
    simp only [bind, Except.bind, throw, throwThe, MonadExceptOf.throw, pure, Except.pure]
    split
    · rfl
    · split
      · rfl
      · cases found : LengthWord.product? (.ofCount config.lengthWidth blockCount)
          (.ofCount config.lengthWidth blockSize) with
        | none =>
          -- Where no word holds the product, it is greater than any length word.
          rw [if_pos (missing.mp found)]
          rfl
        | some length =>
          have product := LengthWord.toNat_of_product? found
          simp only [LengthWord.toNat_ofCount] at product
          rw [if_neg (fun beyond => by simp [missing.mpr beyond] at found), ← product]
          simp only [BitVec.lt_def]
          split <;> rfl

/-- A request that a machine accepts passes every check, and its length is the true product. -/
theorem accepted_of_blockLength (config : DeviceConfig) {function : UInt8}
    {address blockCount blockSize : UInt32} {buffer : Bytes}
    {length : LengthWord config.lengthWidth} (fits : buffer.length ≤ config.lengthWidth.greatest)
    (checked : blockLength function address blockCount blockSize
      (.ofBytes config.lengthWidth buffer) = .ok length) :
    length.toNat = blockCount.toNat * blockSize.toNat
      ∧ AcceptedBlocks function address blockCount blockSize buffer.length := by
  have agreed := blockLength_eq config function address blockCount blockSize
    (.ofBytes config.lengthWidth buffer)
  rw [checked, LengthWord.toNat_ofBytes fits] at agreed
  exact AcceptedBlocks.of_blockLength agreed.symm

/-- A request that passes every check is accepted by a machine that its buffer fits. -/
theorem blockLength_of_accepted (config : DeviceConfig) {function : UInt8}
    {address blockCount blockSize : UInt32} {buffer : Bytes}
    (fits : buffer.length ≤ config.lengthWidth.greatest)
    (accepted : AcceptedBlocks function address blockCount blockSize buffer.length) :
    ∃ length, blockLength function address blockCount blockSize
      (.ofBytes config.lengthWidth buffer) = .ok length := by
  have agreed := blockLength_eq config function address blockCount blockSize
    (.ofBytes config.lengthWidth buffer)
  rw [LengthWord.toNat_ofBytes fits, accepted.blockLength fits] at agreed
  cases checked : blockLength function address blockCount blockSize
    (LengthWord.ofBytes config.lengthWidth buffer) with
  | error cause =>
    rw [checked] at agreed
    cases agreed
  | ok length => exact ⟨length, rfl⟩

variable (rigour : Rigour)

/-- The longest command of an accepted block size is computed exactly. -/
theorem chunkLength_eq (width : LengthWidth) {blockSize : UInt32}
    (size_le : blockSize.toNat ≤ 2048) :
    ∃ longest, chunkLength rigour width blockSize = .ok longest
      ∧ longest.toNat = 511 * blockSize.toNat := by
  have fits : maxBlockCount.toNat * blockSize.toNat ≤ width.greatest := by
    have most : maxBlockCount.toNat = 511 := rfl
    rw [most]
    exact width.le_greatest (by omega)
  obtain ⟨computed, value⟩ := LengthWord.product_ofCount rigour fits
  exact ⟨_, computed, value⟩

/-- Chunks of some length are cut as without a machine. -/
theorem chunks_eq {length : LengthWord width} (positive : 0 < length.toNat) (bytes : Bytes) :
    chunks rigour length bytes = .ok (CardLink.chunks length.toNat bytes) := by
  have fine : decide (length = 0) = false := by
    rw [decide_eq_false_iff_not, LengthWord.eq_zero_iff]
    omega
  rw [chunks, fine]
  rfl

section Chunk

variable {blockSize : UInt32} {chunk : Bytes} (part : WholeChunk blockSize chunk)
  (size_le : blockSize.toNat ≤ 2048)

include part size_le

/-- The length of a chunk is held exactly. -/
theorem toNat_chunkLength (width : LengthWidth) :
    (LengthWord.ofBytes width chunk).toNat = chunk.length :=
  LengthWord.toNat_ofBytes (width.le_greatest (Nat.lt_trans (part.length_lt size_le) (by decide)))

/-- The blocks of a chunk are counted exactly. -/
theorem chunkBlocks_eq (width : LengthWidth) (positive : 1 ≤ blockSize.toNat) :
    chunkBlocks rigour width blockSize chunk = .ok (.ofNat (chunk.length / blockSize.toNat)) := by
  have length := toNat_chunkLength part size_le width
  obtain ⟨divided, value⟩ := LengthWord.quotient_ofCount rigour (.ofBytes width chunk) positive
    (by rw [length]; exact part.whole)
  rw [length] at value
  -- A quotient is no greater than the length that was divided.
  have fits : chunk.length / blockSize.toNat < 2 ^ 32 :=
    Nat.lt_of_le_of_lt (Nat.div_le_self _ _) (Nat.lt_trans (part.length_lt size_le) (by decide))
  rw [chunkBlocks, divided]
  change LengthWord.toCount rigour _ = _
  rw [LengthWord.toCount_of_lt rigour (by rw [value]; exact fits), value]

end Chunk

/-- The address behind a command is computed exactly, and the sum fits its word before it is masked. -/
theorem nextAddress_eq (mode : ExtendedMode) {address : UInt32} {length : LengthWord width}
    (address_le : address.toNat ≤ 0x1FFFF) (length_lt : length.toNat < 2 ^ 20) :
    nextAddress rigour mode address length =
      .ok (CardLink.nextAddress mode address length.toNat) := by
  unfold nextAddress CardLink.nextAddress
  split
  · have step : (UInt32.ofNat length.toNat).toNat = length.toNat := by
      rw [UInt32.toNat_ofNat', Nat.mod_eq_of_lt (by omega)]
    have fine : address.toBitVec.uaddOverflow (UInt32.ofNat length.toNat).toBitVec = false := by
      rw [BitVec.uaddOverflow, decide_eq_false_iff_not, UInt32.toNat_toBitVec, UInt32.toNat_toBitVec,
        step]
      omega
    rw [LengthWord.toCount_of_lt rigour (by omega)]
    change (do
      rigour.heed .wrapped (address.toBitVec.uaddOverflow (UInt32.ofNat length.toNat).toBitVec)
      return (address + UInt32.ofNat length.toNat) &&& maxAddress : Except Mishap UInt32) = _
    rw [fine]
    rfl
  · rfl

/-- No next address leaves seventeen bits. -/
theorem nextAddress_le (mode : ExtendedMode) {address : UInt32} (length : Nat)
    (address_le : address.toNat ≤ 0x1FFFF) :
    (CardLink.nextAddress mode address length).toNat ≤ 0x1FFFF := by
  rw [toNat_nextAddress]
  exact addressBehind_le _ _ address_le

/-- Chunks of whole blocks are moved as without a machine. -/
theorem moveChunks_eq (width : LengthWidth) (request : BlockRequest) (mode : ExtendedMode)
    (size_pos : 1 ≤ request.blockSize.toNat) (size_le : request.blockSize.toNat ≤ 2048)
    {parts : List Bytes} (whole : ∀ chunk ∈ parts, WholeChunk request.blockSize chunk)
    {address : UInt32} (address_le : address.toNat ≤ 0x1FFFF) :
    moveChunks rigour width request mode parts address =
      liftM (CardLink.moveChunks request mode parts address) := by
  -- Every command starts from an address that fits, and leaves one that fits to the next.
  induction parts generalizing address with
  | nil => rfl
  | cons chunk rest ih =>
    have part := whole chunk List.mem_cons_self
    have length := toNat_chunkLength part size_le width
    have next := nextAddress_eq rigour mode address_le
      (by rw [length]; exact part.length_lt size_le)
    have others := ih (fun later member => whole later (List.mem_cons_of_mem _ member))
      (nextAddress_le mode chunk.length address_le)
    rw [length] at next
    rw [moveChunks, CardLink.moveChunks, chunkBlocks_eq rigour part size_le width size_pos,
      addressField_of_le rigour address_le, liftM_bind]
    simp only [liftM_ok, pure_bind]
    congr 1
    funext first
    cases first.1 with
    | error cause => rfl
    | ok done => simp only [next, liftM_ok, pure_bind, others, liftM_bind, liftM_pure]

/-- The front of an accepted request is moved as without a machine. -/
theorem moveFront_eq (config : DeviceConfig) (request : BlockRequest) {blockCount : UInt32}
    {buffer : Bytes} {length : LengthWord width} (fits : buffer.length ≤ width.greatest)
    (accepted : AcceptedBlocks request.function request.address blockCount request.blockSize
      buffer.length)
    (product : length.toNat = blockCount.toNat * request.blockSize.toNat) :
    moveFront rigour config request blockCount buffer length =
      liftM (moveAccepted config request blockCount (buffer.take length.toNat)) := by
  have within : length.toNat ≤ buffer.length := by
    rw [product]
    exact accepted.room
  obtain ⟨longest, computed, value⟩ := chunkLength_eq rigour width accepted.size_le
  have positive : 0 < longest.toNat := by
    have := accepted.size_pos
    omega
  have front : (buffer.take length.toNat).length = blockCount.toNat * request.blockSize.toNat := by
    rw [product, accepted.length_front]
  -- The front holds all blocks of the request, so every chunk of it is made of whole blocks.
  have whole : ∀ chunk ∈ CardLink.chunks longest.toNat (buffer.take length.toNat),
      WholeChunk request.blockSize chunk := by
    rw [value]
    exact fun chunk member => .of_mem_chunks accepted.size_pos front member
  have moved := moveChunks_eq rigour width request
    (.ofTransfer blockCount config.incrementAddress) accepted.size_pos accepted.size_le whole
    accepted.address_le
  rw [moveFront, moveAccepted, front_eq rigour fits within]
  simp only [liftM_ok, pure_bind, computed, chunks_eq rigour positive, moved,
    addressField_of_le rigour accepted.address_le]
  rw [value]
  split <;> rfl

/-- Blocks are moved as without a machine, whatever becomes of the request. -/
theorem moveBlocks_eq (config : DeviceConfig) (request : BlockRequest) (blockCount : UInt32)
    {buffer : Bytes} (fits : buffer.length ≤ config.lengthWidth.greatest) :
    moveBlocks rigour config request blockCount buffer =
      liftM (CardLink.moveBlocks config request blockCount buffer) := by
  have agreed := blockLength_eq config request.function request.address blockCount request.blockSize
    (.ofBytes config.lengthWidth buffer)
  rw [LengthWord.toNat_ofBytes fits] at agreed
  rw [moveBlocks, CardLink.moveBlocks, ← agreed]
  cases checked : blockLength request.function request.address blockCount request.blockSize
    (LengthWord.ofBytes config.lengthWidth buffer) with
  | error cause => rfl
  | ok length =>
    -- What the checks establish is what the commands rely on.
    obtain ⟨product, accepted⟩ := accepted_of_blockLength config fits checked
    simp only [Except.map, moveFront_eq rigour config request fits accepted product]
    rw [← holdingBus_eq]
    simp only [liftM_bind, liftM_pure]

/-- A write of blocks is carried out as without a machine. -/
theorem writeBlocks_eq (config : DeviceConfig) (function : UInt8)
    (address blockCount blockSize : UInt32) {buffer : Bytes}
    (fits : buffer.length ≤ config.lengthWidth.greatest) :
    writeBlocks rigour config function address blockCount blockSize buffer =
      liftM (CardLink.writeBlocks config function address blockCount blockSize buffer) := by
  rw [writeBlocks, CardLink.writeBlocks, moveBlocks_eq rigour config _ blockCount fits]
  simp only [liftM_bind, liftM_pure]

end Machine

/-- What a machine computes for a chunk, with nothing lost on the way. -/
structure ExactChunk (rigour : Rigour) (width : LengthWidth) (blockSize : UInt32) (chunk : Bytes) : Prop
    extends WholeChunk blockSize chunk where
  /-- The blocks are counted without a remainder, and the count fits 32 bits. -/
  blocks : ∃ blocks, Machine.chunkBlocks rigour width blockSize chunk = .ok blocks
    ∧ blocks.toNat * blockSize.toNat = chunk.length
  /-- The length fits 32 bits. -/
  step : ∃ step, (LengthWord.ofBytes width chunk).toCount rigour = .ok step
    ∧ step.toNat = chunk.length
  /-- Behind an address of seventeen bits, the sum fits 32 bits, and the next address has seventeen. -/
  next (mode : ExtendedMode) (address : UInt32) (address_le : address.toNat ≤ 0x1FFFF) :
    address.toNat + chunk.length < 2 ^ 32
      ∧ ∃ next, Machine.nextAddress rigour mode address (.ofBytes width chunk) = .ok next
        ∧ next.toNat = addressBehind mode.increments address.toNat chunk.length
        ∧ next.toNat ≤ 0x1FFFF

/-- What a machine computes on the way through the chunks of a request, with nothing lost. -/
structure ExactCut (rigour : Rigour) {width : LengthWidth} (address blockSize : UInt32) (bytes : Bytes)
    (longest : LengthWord width) (parts : List Bytes) : Prop where
  /-- The length of the longest command is the true product. -/
  computed : Machine.chunkLength rigour width blockSize = .ok longest
    ∧ longest.toNat = 511 * blockSize.toNat
  /-- The longest command is not empty. -/
  nonempty : longest ≠ 0
  /-- The chunks are those of this length, and make up all bytes. -/
  cut : Machine.chunks rigour longest bytes = .ok parts ∧ parts.flatten = bytes
  /-- Every chunk is computed with exactly. -/
  each : ∀ chunk ∈ parts, ExactChunk rigour width blockSize chunk
  /-- Behind any number of chunks, the address is the one behind their bytes, and has seventeen bits. -/
  places (mode : ExtendedMode) (before : List Bytes) (first : before <+: parts) :
    ∃ next, before.foldlM (fun place chunk =>
          Machine.nextAddress rigour mode place (.ofBytes width chunk)) address = .ok next
      ∧ next.toNat = addressBehind mode.increments address.toNat before.flatten.length
      ∧ next.toNat ≤ 0x1FFFF

/-- What a machine computes for an accepted request, with nothing lost on the way. -/
structure ExactBlocks (rigour : Rigour) {width : LengthWidth} (address blockCount blockSize : UInt32)
    (buffer : Bytes) (length : LengthWord width) : Prop where
  /-- The accepted length is the true product. -/
  length_eq : length.toNat = blockCount.toNat * blockSize.toNat
  /-- The bytes to move lie within the buffer. -/
  front : length.toNat ≤ buffer.length
    ∧ Machine.front rigour buffer length = .ok (buffer.take length.toNat)
  /-- These bytes are cut into chunks. -/
  cut : ∃ longest parts, ExactCut rigour address blockSize (buffer.take length.toNat)
    (longest : LengthWord width) parts

/-- A machine computes exactly with any chunk of whole blocks. -/
theorem WholeChunk.exact {blockSize : UInt32} {chunk : Bytes} (part : WholeChunk blockSize chunk)
    (rigour : Rigour) (width : LengthWidth) (size_pos : 1 ≤ blockSize.toNat)
    (size_le : blockSize.toNat ≤ 2048) : ExactChunk rigour width blockSize chunk := by
  have length := Machine.toNat_chunkLength part size_le width
  have short := part.length_lt size_le
  have fits : chunk.length < 2 ^ 32 := Nat.lt_trans short (by decide)
  refine ⟨part, ?_, ?_, ?_⟩
  · refine ⟨_, Machine.chunkBlocks_eq rigour part size_le width size_pos, ?_⟩
    rw [UInt32.toNat_ofNat', Nat.mod_eq_of_lt (Nat.lt_of_le_of_lt (Nat.div_le_self _ _) fits),
      Nat.div_mul_cancel part.whole]
  · refine ⟨_, LengthWord.toCount_of_lt rigour (by rw [length]; exact fits), ?_⟩
    rw [length, UInt32.toNat_ofNat', Nat.mod_eq_of_lt fits]
  · intro mode address address_le
    have next := Machine.nextAddress_eq rigour mode address_le (by rw [length]; exact short)
    rw [length] at next
    exact ⟨by omega, _, next, toNat_nextAddress mode address _,
      Machine.nextAddress_le mode _ address_le⟩

/-- The address behind some chunks is the one behind their bytes. -/
theorem ExactChunk.foldlM_nextAddress {rigour : Rigour} {width : LengthWidth} {blockSize : UInt32}
    {parts : List Bytes} (exact : ∀ chunk ∈ parts, ExactChunk rigour width blockSize chunk)
    (mode : ExtendedMode) {address : UInt32} (address_le : address.toNat ≤ 0x1FFFF) :
    ∃ next, parts.foldlM (fun place chunk =>
          Machine.nextAddress rigour mode place (.ofBytes width chunk)) address = .ok next
      ∧ next.toNat = addressBehind mode.increments address.toNat parts.flatten.length
      ∧ next.toNat ≤ 0x1FFFF := by
  -- Each chunk starts from an address of seventeen bits, and leaves one to the chunks behind it.
  induction parts generalizing address with
  | nil => exact ⟨address, rfl, (addressBehind_zero mode.increments address_le).symm, address_le⟩
  | cons chunk rest ih =>
    obtain ⟨-, behind, computed, value, behind_le⟩ :=
      (exact chunk List.mem_cons_self).next mode address address_le
    obtain ⟨next, folded, place, next_le⟩ :=
      ih (fun later member => exact later (List.mem_cons_of_mem _ member)) behind_le
    refine ⟨next, ?_, ?_, next_le⟩
    · rw [List.foldlM_cons, computed]
      exact folded
    · rw [place, value, addressBehind_add, List.flatten_cons, List.length_append]

/-- A machine computes exactly with the blocks of any accepted request. -/
theorem ExactCut.of_whole (rigour : Rigour) (width : LengthWidth) {address blockSize : UInt32}
    {blockCount : Nat} {bytes : Bytes} (address_le : address.toNat ≤ 0x1FFFF)
    (size_pos : 1 ≤ blockSize.toNat) (size_le : blockSize.toNat ≤ 2048)
    (whole : bytes.length = blockCount * blockSize.toNat) :
    ∃ longest parts,
      ExactCut rigour address blockSize bytes (longest : LengthWord width) parts := by
  obtain ⟨longest, computed, value⟩ := Machine.chunkLength_eq rigour width size_le
  have positive : 0 < longest.toNat := by omega
  have each : ∀ chunk ∈ chunks longest.toNat bytes, ExactChunk rigour width blockSize chunk := by
    rw [value]
    intro chunk member
    exact (WholeChunk.of_mem_chunks size_pos whole member).exact rigour width size_pos size_le
  refine ⟨longest, _, ⟨computed, value⟩, ?_, ⟨Machine.chunks_eq rigour positive bytes,
    flatten_chunks positive bytes⟩, each, ?_⟩
  · rw [Ne, LengthWord.eq_zero_iff]
    omega
  · intro mode before first
    exact ExactChunk.foldlM_nextAddress (fun chunk member => each chunk (first.subset member)) mode
      address_le

/-- A machine computes exactly with any request that it accepts. -/
theorem ExactBlocks.of_accepted (rigour : Rigour) (config : DeviceConfig) {function : UInt8}
    {address blockCount blockSize : UInt32} {buffer : Bytes} {length : LengthWord config.lengthWidth}
    (fits : buffer.length ≤ config.lengthWidth.greatest)
    (checked : Machine.blockLength function address blockCount blockSize
      (.ofBytes config.lengthWidth buffer) = .ok length) :
    ExactBlocks rigour address blockCount blockSize buffer length := by
  obtain ⟨product, accepted⟩ := Machine.accepted_of_blockLength config fits checked
  have within : length.toNat ≤ buffer.length := by
    rw [product]
    exact accepted.room
  have whole : (buffer.take length.toNat).length = blockCount.toNat * blockSize.toNat := by
    rw [product, accepted.length_front]
  exact ⟨product, ⟨within, Machine.front_eq rigour fits within⟩,
    ExactCut.of_whole rigour config.lengthWidth accepted.address_le accepted.size_pos accepted.size_le
      whole⟩

end CardLink
