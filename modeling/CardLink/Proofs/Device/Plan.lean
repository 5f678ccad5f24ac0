import CardLink.Host.Scripted
import CardLink.Proofs.Device.Block

/-!
The commands of a block request are fixed by its arguments: it issues them in order, up to the first
that fails, and nothing else.
-/

namespace CardLink

/-- Commands issued in order up to the first failure, and the result that they lead to. -/
inductive FollowsPlan : List Transfer → List Exchange → Except DeviceError Unit → Prop where
  /-- Nothing is left to do. -/
  | finished : FollowsPlan [] [] (.ok ())
  /-- The next command fails, and no other follows it. -/
  | stopped {next : Transfer} {rest : List Transfer} {reply : TransferReply}
      (failed : reply.failed = true) :
      FollowsPlan (next :: rest) [⟨.transfer next, reply⟩] (.error (.bus .transferFailed))
  /-- The next command succeeds, and the others follow it. -/
  | continued {next : Transfer} {rest : List Transfer} {reply : TransferReply}
      {issued : List Exchange} {result : Except DeviceError Unit} (fine : reply.failed = false)
      (others : FollowsPlan rest issued result) :
      FollowsPlan (next :: rest) (⟨.transfer next, reply⟩ :: issued) result

/-- One command follows the plan that consists of it, and its answer decides. -/
theorem FollowsPlan.single (asked : Transfer) (reply : TransferReply) :
    FollowsPlan [asked] [⟨.transfer asked, reply⟩] reply.verdict := by
  -- The two ways in which a command can end are those in which a plan goes on.
  rw [TransferReply.verdict]
  split
  · rename_i failed
    exact .stopped failed
  · rename_i fine
    exact .continued (by simpa using fine) .finished

/-- A plan as it was carried out, seen from the list of all calls and from the result. -/
structure CarriedOut (plan : List Transfer) (issued : List Exchange)
    (result : Except DeviceError Unit) : Prop where
  /-- The calls are the first transfers of the plan and nothing else. -/
  calls_first : issued.map Exchange.call <+: plan.map HostCall.transfer
  /-- Only the last call can have failed. -/
  earlier_fine : ∀ exchange ∈ issued.dropLast, exchange.failed = false
  /-- The request succeeds exactly if all of the plan was issued and nothing failed. -/
  ok_iff : result = .ok () ↔
    issued.length = plan.length ∧ ∀ exchange ∈ issued, exchange.failed = false
  /-- Otherwise the last call failed, and the failure is one of the bus. -/
  otherwise : result ≠ .ok () →
    result = .error (.bus .transferFailed) ∧ ∃ last, issued.getLast? = some last ∧ last.failed = true

/-- Following a plan carries it out. -/
theorem FollowsPlan.carriedOut {plan : List Transfer} {issued : List Exchange}
    {result : Except DeviceError Unit} (follows : FollowsPlan plan issued result) :
    CarriedOut plan issued result := by
  -- Each command in front adds one call on both sides and settles nothing about the rest.
  induction follows with
  | finished =>
    exact ⟨List.nil_prefix, by simp, by simp, fun failed => absurd rfl failed⟩
  | stopped failed =>
    refine ⟨by simp, by simp, ?_, fun _ => ⟨rfl, _, rfl, failed⟩⟩
    simp [Exchange.failed, failed]
  | @continued next rest reply issued result fine others ih =>
    obtain ⟨calls_first, earlier_fine, ok_iff, otherwise⟩ := ih
    have first : Exchange.failed ⟨.transfer next, reply⟩ = false := fine
    refine ⟨by simpa using calls_first, ?_, ?_, ?_⟩
    · intro exchange member
      cases issued with
      | nil => simp at member
      | cons second later =>
        rw [List.dropLast_cons_cons, List.mem_cons] at member
        rcases member with rfl | member
        · exact first
        · exact earlier_fine exchange member
    · rw [ok_iff]
      simp [first]
    · intro failed
      obtain ⟨error, last, isLast, lastFailed⟩ := otherwise failed
      refine ⟨error, last, ?_, lastFailed⟩
      rw [List.getLast?_cons, isLast]
      rfl

/-- Without a failed call, a plan was carried out to its end. -/
theorem CarriedOut.complete {plan : List Transfer} {issued : List Exchange}
    {result : Except DeviceError Unit} (carried : CarriedOut plan issued result)
    (fine : ∀ exchange ∈ issued, exchange.failed = false) :
    result = .ok () ∧ issued.map Exchange.call = plan.map .transfer := by
  -- A request that does not succeed shows its failure in the last call.
  have ended : result = .ok () := by
    by_contra unfinished
    obtain ⟨-, last, isLast, failed⟩ := carried.otherwise unfinished
    have member : last ∈ issued := List.mem_of_getLast? isLast
    rw [fine last member] at failed
    cases failed
  obtain ⟨length, -⟩ := carried.ok_iff.mp ended
  exact ⟨ended, carried.calls_first.eq_of_length (by rw [List.length_map, List.length_map, length])⟩

/-- The command with these fields in its argument, its response still to come. -/
def ExtendedFields.command (fields : ExtendedFields) : Command := ⟨53, fields.word, .r5, {}⟩

namespace BlockRequest

/-- The only command of a request for one block: in byte mode, with the block size as its count. -/
def byteTransfer (request : BlockRequest) (increments : Bool) (buffer : Bytes) : Transfer where
  command := ExtendedFields.command {
    write := request.direction = .toCard
    function := request.function.toNat
    blockMode := false
    increments
    address := request.address.toNat
    count := request.blockSize.toNat % 512 }
  data := some {
    blockSize := request.blockSize
    blockCount := 1
    buffer := .plain request.direction (buffer.take request.blockSize.toNat) }

/-- The command at a place of a request in block mode, behind 511 blocks for each place before. -/
def blockTransfer (request : BlockRequest) (increments : Bool) (blockCount : Nat) (buffer : Bytes)
    (place : Nat) : Transfer where
  command := ExtendedFields.command {
    write := request.direction = .toCard
    function := request.function.toNat
    blockMode := true
    increments
    address := addressBehind increments request.address.toNat
      (511 * request.blockSize.toNat * place)
    count := min 511 (blockCount - 511 * place) }
  data := some {
    blockSize := request.blockSize
    blockCount := .ofNat (min 511 (blockCount - 511 * place))
    buffer := .plain request.direction (slice buffer (511 * request.blockSize.toNat * place)
      (min 511 (blockCount - 511 * place) * request.blockSize.toNat)) }

/-- All commands of a request: one in byte mode for one block, or one for every 511 blocks begun. -/
def plan (request : BlockRequest) (increments : Bool) (blockCount : Nat) (buffer : Bytes) :
    List Transfer :=
  if blockCount = 1 then [request.byteTransfer increments buffer]
  else (List.range ((blockCount + 510) / 511)).map
    (request.blockTransfer increments blockCount buffer)

/-- Every command of a request has one stretch of memory, which goes the way of the request. -/
theorem buffer_of_mem_plan (request : BlockRequest) (increments : Bool) (blockCount : Nat)
    (buffer : Bytes) {asked : Transfer} (member : asked ∈ request.plan increments blockCount buffer) :
    ∃ data bytes, asked.data = some data ∧ data.buffer = .plain request.direction bytes := by
  -- Both kinds of commands carry a single stretch.
  unfold plan at member
  split at member
  · rw [List.mem_singleton.mp member]
    exact ⟨_, _, rfl, rfl⟩
  · obtain ⟨place, -, rfl⟩ := List.mem_map.mp member
    exact ⟨_, _, rfl, rfl⟩

/-- The command behind the first 511 blocks is the first command of a request for the rest. -/
theorem blockTransfer_succ (request : BlockRequest) (increments : Bool) (blockCount : Nat)
    (buffer : Bytes) (place : Nat) (behind : UInt32)
    (moved : behind.toNat =
      addressBehind increments request.address.toNat (511 * request.blockSize.toNat)) :
    request.blockTransfer increments blockCount buffer (place + 1) =
      { request with address := behind }.blockTransfer increments (blockCount - 511)
        (buffer.drop (511 * request.blockSize.toNat)) place := by
  -- Blocks, address and bytes all move on by one full command.
  have blocks : blockCount - 511 * (place + 1) = blockCount - 511 - 511 * place := by omega
  have offset : 511 * request.blockSize.toNat * (place + 1) =
      511 * request.blockSize.toNat + 511 * request.blockSize.toNat * place := by
    rw [Nat.mul_succ, Nat.add_comm]
  simp only [blockTransfer, blocks, offset, moved, addressBehind_add, slice, List.drop_drop]

/-- The argument of a command whose function and address fit their places. -/
theorem command_access (request : BlockRequest) (mode : ExtendedMode) (address count : UInt32)
    (valid : ValidTarget request.function address) :
    Command.ioExtended (request.access mode address count) = ExtendedFields.command {
      write := request.direction = .toCard
      function := request.function.toNat
      blockMode := mode.blockMode
      increments := mode.increments
      address := address.toNat
      count := count.toNat % 512 } := by
  -- Neither field is cut, so only the count is still reduced to its place.
  have function : request.function.toNat % 2 ^ 3 = request.function.toNat :=
    Nat.mod_eq_of_lt (Nat.lt_succ_of_le valid.function_le)
  have place : address.toNat % 2 ^ 17 = address.toNat :=
    Nat.mod_eq_of_lt (Nat.lt_succ_of_le valid.address_le)
  simp only [Command.ioExtended, ExtendedAccess.encode_eq_word, ExtendedAccess.fields, access,
    function, place]
  rfl

/-- The first chunk of some blocks holds as many of them as one command can move. -/
theorem length_firstChunk (request : BlockRequest) {blockCount : Nat} {bytes : Bytes}
    (whole : bytes.length = blockCount * request.blockSize.toNat) :
    (bytes.take (511 * request.blockSize.toNat)).length =
      min 511 blockCount * request.blockSize.toNat := by
  rw [List.length_take, whole, Nat.mul_min_mul_right]

/-- The first chunk of some blocks is the slice at their front. -/
theorem slice_firstChunk (request : BlockRequest) {blockCount : Nat} {bytes : Bytes}
    (whole : bytes.length = blockCount * request.blockSize.toNat) :
    slice bytes 0 (min 511 blockCount * request.blockSize.toNat) =
      bytes.take (511 * request.blockSize.toNat) := by
  rw [slice, List.drop_zero, ← Nat.mul_min_mul_right, ← whole,
    ← List.take_eq_take_min]

/-- The commands for some blocks are the first one and the commands for the blocks behind it. -/
theorem map_blockTransfer_succ (request : BlockRequest) (increments : Bool) {count blockCount : Nat}
    (bytes : Bytes) (behind : UInt32) (counted : count + 1 = (blockCount + 510) / 511)
    (whole : bytes.length = blockCount * request.blockSize.toNat)
    (moved : behind.toNat = addressBehind increments request.address.toNat
      (bytes.take (511 * request.blockSize.toNat)).length) :
    (List.range (count + 1)).map (request.blockTransfer increments blockCount bytes) =
      request.blockTransfer increments blockCount bytes 0
        :: (List.range count).map ({ request with address := behind }.blockTransfer increments
          (blockCount - 511) (bytes.drop (511 * request.blockSize.toNat))) := by
  rw [List.range_succ_eq_map, List.map_cons, List.map_map]
  apply congrArg (List.cons _)
  apply List.map_congr_left
  intro place member
  -- A command behind the first one means that the first one was full.
  have full : min 511 blockCount = 511 := by
    have := List.mem_range.mp member
    omega
  rw [request.length_firstChunk whole, full] at moved
  exact request.blockTransfer_succ increments blockCount bytes place _ moved

/-- The command for the first chunk of some blocks is the first one of their plan. -/
theorem transfer_firstChunk (request : BlockRequest) (mode : ExtendedMode) (blockCount : Nat)
    (bytes : Bytes) (address : UInt32) (block : mode.blockMode = true)
    (positive : 1 ≤ request.blockSize.toNat)
    (whole : bytes.length = blockCount * request.blockSize.toNat)
    (valid : ValidTarget request.function address) :
    let chunk := bytes.take (511 * request.blockSize.toNat)
    let blocks := UInt32.ofNat (chunk.length / request.blockSize.toNat)
    (request.access mode address blocks).transfer
        { blockSize := request.blockSize, blockCount := blocks,
          buffer := .plain request.direction chunk } =
      { request with address }.blockTransfer mode.increments blockCount bytes 0 := by
  -- The length of the chunk is a multiple of the block size, so the division is exact.
  have length := request.length_firstChunk whole
  have blocks : min 511 blockCount * request.blockSize.toNat / request.blockSize.toNat =
      min 511 blockCount := Nat.mul_div_cancel _ positive
  have field : (UInt32.ofNat (min 511 blockCount)).toNat % 512 = min 511 blockCount := by
    rw [UInt32.toNat_ofNat']
    omega
  have start := addressBehind_zero mode.increments valid.address_le
  simp only [ExtendedAccess.transfer, length, blocks, blockTransfer]
  rw [request.command_access mode address _ valid]
  simp only [block, field, Nat.mul_zero, Nat.sub_zero, start, request.slice_firstChunk whole]

/-- The only command of one block alone is the plan for it. -/
theorem transfer_single (request : BlockRequest) (mode : ExtendedMode) (bytes : Bytes)
    (single : mode.blockMode = false) (whole : bytes.length = request.blockSize.toNat)
    (valid : ValidTarget request.function request.address) :
    (request.access mode request.address request.blockSize).transfer
        { blockSize := request.blockSize, blockCount := 1,
          buffer := .plain request.direction bytes } =
      request.byteTransfer mode.increments bytes := by
  -- All bytes belong to the block, and the block size goes into the count field.
  have all : bytes.take request.blockSize.toNat = bytes := List.take_of_length_le (by omega)
  rw [ExtendedAccess.transfer, request.command_access mode request.address _ valid, byteTransfer,
    all, single]

/-- The stretch of every command ends within the blocks of the request. -/
theorem blockTransfer_within (request : BlockRequest) {blockCount place : Nat}
    (member : place < (blockCount + 510) / 511) :
    511 * request.blockSize.toNat * place
      + min 511 (blockCount - 511 * place) * request.blockSize.toNat ≤
      blockCount * request.blockSize.toNat := by
  have inside : 511 * place + min 511 (blockCount - 511 * place) ≤ blockCount := by omega
  calc 511 * request.blockSize.toNat * place
        + min 511 (blockCount - 511 * place) * request.blockSize.toNat
      = (511 * place + min 511 (blockCount - 511 * place)) * request.blockSize.toNat := by
        rw [Nat.add_mul, Nat.mul_right_comm]
    _ ≤ blockCount * request.blockSize.toNat := Nat.mul_le_mul_right _ inside

/-- Only the bytes of the blocks enter a plan, whatever else the buffer holds. -/
theorem plan_take (request : BlockRequest) (increments : Bool) {blockCount : Nat} (buffer : Bytes) :
    request.plan increments blockCount (buffer.take (blockCount * request.blockSize.toNat)) =
      request.plan increments blockCount buffer := by
  unfold plan
  by_cases single : blockCount = 1
  · rw [if_pos single, if_pos single, byteTransfer, byteTransfer, List.take_take, single,
      Nat.one_mul, Nat.min_self]
  · rw [if_neg single, if_neg single]
    apply List.map_congr_left
    intro place member
    -- The slice of each command ends within the blocks.
    have within := request.blockTransfer_within (List.mem_range.mp member)
    simp only [blockTransfer, slice_take within]

end BlockRequest

section Run

variable {σ : Type} (model : HostModel σ) (state : BusState σ)

/-- One extended transfer follows the plan that consists of it. -/
theorem moveExtended_follows (access : ExtendedAccess) (data : DataPhase) :
    let moved := (moveExtended access data).run model state
    FollowsPlan [access.transfer data] moved.exchanges moved.value.1 := by
  obtain ⟨value, -, -, exchanges⟩ := run_moveExtended model state access data
  dsimp only
  rw [value, exchanges]
  exact .single _ _

variable (request : BlockRequest) (mode : ExtendedMode)

/-- Moving chunks follows a plan that begins with the command for the first chunk, if the rest does. -/
theorem moveChunks_cons_follows (chunk : Bytes) (rest : List Bytes) (address : UInt32)
    (plan : List Transfer)
    (others : ∀ next : BusState σ,
      let moved := (moveChunks request mode rest (nextAddress mode address chunk.length)).run model next
      FollowsPlan plan moved.exchanges moved.value.1) :
    let blocks := UInt32.ofNat (chunk.length / request.blockSize.toNat)
    let moved := (moveChunks request mode (chunk :: rest) address).run model state
    FollowsPlan ((request.access mode address blocks).transfer
        { blockSize := request.blockSize, blockCount := blocks,
          buffer := .plain request.direction chunk } :: plan) moved.exchanges moved.value.1 := by
  -- A failure of the first command is the end, and otherwise the rest begins where the host stands.
  rw [run_moveChunks_cons]
  dsimp only
  generalize UInt32.ofNat _ = blocks
  generalize phase : DataPhase.mk request.blockSize blocks _ _ = data
  obtain ⟨value, -, -, exchanges⟩ :=
    run_moveExtended model state (request.access mode address blocks) data
  rw [value, exchanges, TransferReply.verdict]
  by_cases failed : (extendedAnswer model state (request.access mode address blocks) data).1.failed
  · rw [if_pos failed]
    exact .stopped failed
  · rw [if_neg failed]
    exact .continued (by simpa using failed) (others _)

/-- Moving the pieces of some blocks follows their plan. -/
theorem moveChunks_follows (block : mode.blockMode = true) (positive : 1 ≤ request.blockSize.toNat)
    (count blockCount : Nat) (bytes : Bytes) (address : UInt32)
    (counted : count = (blockCount + 510) / 511)
    (whole : bytes.length = blockCount * request.blockSize.toNat)
    (valid : ValidTarget request.function address) :
    let moved := (moveChunks request mode
      (pieces (511 * request.blockSize.toNat) count bytes) address).run model state
    FollowsPlan ((List.range count).map
        ({ request with address }.blockTransfer mode.increments blockCount bytes))
      moved.exchanges moved.value.1 := by
  -- Behind its first command, a request goes on as the request for the blocks that are left.
  induction count generalizing blockCount bytes address state with
  | zero => exact .finished
  | succ count ih =>
    have first := request.transfer_firstChunk mode blockCount bytes address block positive whole valid
    let behind := nextAddress mode address (bytes.take (511 * request.blockSize.toNat)).length
    have moved : behind.toNat = addressBehind mode.increments address.toNat
        (bytes.take (511 * request.blockSize.toNat)).length := toNat_nextAddress mode address _
    -- The request for the rest has a valid target as well.
    have stillValid : ValidTarget request.function behind :=
      ⟨valid.function_le, by rw [moved]; exact addressBehind_le _ _ valid.address_le⟩
    have remaining : (bytes.drop (511 * request.blockSize.toNat)).length =
        (blockCount - 511) * request.blockSize.toNat := by
      rw [List.length_drop, whole, Nat.sub_mul]
    have split := BlockRequest.map_blockTransfer_succ { request with address } mode.increments bytes
      behind counted whole moved
    -- The first piece is moved by the first command, and the rest follows its own plan.
    rw [split, pieces, ← first]
    apply moveChunks_cons_follows
    intro next
    exact ih next (blockCount - 511) _ behind (by omega) remaining stillValid

/-- Moving exactly the bytes of an accepted request follows its plan. -/
theorem moveAccepted_follows (config : DeviceConfig) (blockCount : UInt32) (bytes : Bytes)
    (accepted : AcceptedBlocks request.function request.address blockCount request.blockSize
      bytes.length)
    (whole : bytes.length = blockCount.toNat * request.blockSize.toNat) :
    let moved := (moveAccepted config request blockCount bytes).run model state
    FollowsPlan (request.plan config.incrementAddress blockCount.toNat bytes)
      moved.exchanges moved.value.1 := by
  -- The number of blocks decides between the two modes.
  have count_pos := accepted.count_pos
  unfold moveAccepted BlockRequest.plan
  simp only [ExtendedMode.blockMode_ofTransfer]
  by_cases single : blockCount.toNat = 1
  · -- One block goes in byte mode, with all bytes in the only command.
    have byteMode : (ExtendedMode.ofTransfer blockCount config.incrementAddress).blockMode = false := by
      simp [single]
    have only := request.transfer_single _ bytes byteMode (by rw [whole, single, Nat.one_mul])
      accepted.toValidTarget
    rw [ExtendedMode.increments_ofTransfer] at only
    simp only [single, Nat.lt_irrefl, decide_false, Bool.false_eq_true, if_true, if_false, ← only]
    exact moveExtended_follows model state _ _
  · -- Several blocks go in block mode, cut to what one command can move.
    have several : 1 < blockCount.toNat := by omega
    have block : (ExtendedMode.ofTransfer blockCount config.incrementAddress).blockMode = true := by
      simpa using several
    have follows := moveChunks_follows model state request _ block accepted.size_pos _
      blockCount.toNat bytes request.address rfl whole accepted.toValidTarget
    simp only [ExtendedMode.increments_ofTransfer] at follows
    rw [if_neg single, if_pos (decide_eq_true several), chunks, whole]
    have length : chunkLength request.blockSize = 511 * request.blockSize.toNat := rfl
    rw [length, chunkCount_eq _ accepted.size_pos]
    exact follows

/-- Without a failure, the bytes of an accepted request end as the memories of its commands. -/
theorem moveAccepted_memory (config : DeviceConfig) (blockCount : UInt32) (bytes : Bytes)
    (accepted : AcceptedBlocks request.function request.address blockCount request.blockSize
      bytes.length)
    (whole : bytes.length = blockCount.toNat * request.blockSize.toNat) :
    let moved := (moveAccepted config request blockCount bytes).run model state
    moved.value.1 = .ok () → moved.value.2 = (moved.exchanges.map Exchange.memory).flatten := by
  -- Every chunk has a command of its own, so none is left as it was.
  intro moved fine
  have follows := (moveAccepted_follows model state request config blockCount bytes accepted
    whole).carriedOut
  obtain ⟨issued, -⟩ := follows.ok_iff.mp fine
  have count_pos := accepted.count_pos
  by_cases several : 1 < blockCount.toNat
  · have length : chunkLength request.blockSize = 511 * request.blockSize.toNat := rfl
    let mode := ExtendedMode.ofTransfer blockCount config.incrementAddress
    let parts := chunks (chunkLength request.blockSize) bytes
    have memory := moveChunks_memory model state request mode parts request.address
    have ran : moved = (moveChunks request mode parts request.address).run model state := by
      simp only [moved, moveAccepted, ExtendedMode.blockMode_ofTransfer, several, decide_true, if_true,
        mode, parts]
    -- As many commands were issued as there are chunks.
    have all : parts.length ≤ moved.exchanges.length := by
      simp only [parts, chunks]
      rw [issued, pieces_eq, whole, length, chunkCount_eq _ accepted.size_pos, BlockRequest.plan,
        if_neg (by omega), List.length_map, List.length_map]
    rw [← ran] at memory
    rw [memory, List.drop_of_length_le all, List.flatten_nil, List.append_nil]
  · -- The only command moves all bytes.
    let access := request.access (.ofTransfer blockCount config.incrementAddress) request.address
      request.blockSize
    let data : DataPhase := {
      blockSize := request.blockSize, blockCount := 1, buffer := .plain request.direction bytes }
    have ran : moved = (moveExtended access data).run model state := by
      simp only [moved, moveAccepted, ExtendedMode.blockMode_ofTransfer, several, decide_false,
        Bool.false_eq_true, if_false, access, data]
    obtain ⟨value, -, -, exchanges⟩ := run_moveExtended model state access data
    rw [ran, value, exchanges]
    simp [Exchange.memory]

/-- An accepted request on a free bus follows its plan. -/
theorem moveBlocks_follows {state : BusState σ} (config : DeviceConfig) (blockCount : UInt32)
    (buffer : Bytes)
    (accepted : AcceptedBlocks request.function request.address blockCount request.blockSize
      buffer.length)
    (fits : buffer.length ≤ config.lengthWidth.greatest) (free : state.locked = false) :
    let moved := (moveBlocks config request blockCount buffer).run model state
    FollowsPlan (request.plan config.incrementAddress blockCount.toNat buffer)
      moved.exchanges moved.value.1 := by
  -- The bytes of the blocks are the front of the buffer, and the lock is no call.
  have follows := moveAccepted_follows model { state with locked := true } request config blockCount
    _ accepted.front accepted.length_front
  rw [request.plan_take config.incrementAddress buffer] at follows
  simp only [moveBlocks, accepted.blockLength fits, run_holdingBus_free model config buffer _ free,
    Bus.run_bind, Bus.run_pure, List.append_nil]
  exact follows

/-- Without a failure, the memories of the commands stand in front of the bytes behind the blocks. -/
theorem moveBlocks_memory {state : BusState σ} (config : DeviceConfig) (blockCount : UInt32)
    (buffer : Bytes)
    (accepted : AcceptedBlocks request.function request.address blockCount request.blockSize
      buffer.length)
    (fits : buffer.length ≤ config.lengthWidth.greatest) (free : state.locked = false) :
    let moved := (moveBlocks config request blockCount buffer).run model state
    moved.value.1 = .ok () →
      moved.value.2 = (moved.exchanges.map Exchange.memory).flatten
        ++ buffer.drop (blockCount.toNat * request.blockSize.toNat) := by
  -- What the commands did to the front stays, and the bytes behind the blocks never moved.
  have memory := moveAccepted_memory model { state with locked := true } request config blockCount
    _ accepted.front accepted.length_front
  simp only [moveBlocks, accepted.blockLength fits, run_holdingBus_free model config buffer _ free,
    Bus.run_bind, Bus.run_pure, List.append_nil]
  intro fine
  rw [memory fine]

/-- A write of blocks is their move with the buffer dropped from the result. -/
theorem run_writeBlocks (config : DeviceConfig) (function : UInt8)
    (address blockCount blockSize : UInt32) (buffer : Bytes) :
    (writeBlocks config function address blockCount blockSize buffer).run model state =
      let moved := (moveBlocks config ⟨.toCard, function, address, blockSize⟩ blockCount buffer).run
        model state
      ⟨moved.value.1, moved.state, moved.exchanges, moved.lines⟩ := by
  simp only [writeBlocks, Bus.run_bind, Bus.run_pure, List.append_nil]

/--
Block transfers carry out the plan that their arguments fix.

One block goes in byte mode, several in commands of at most 511 blocks, and the first failure of the
host or of the card ends the request.
-/
theorem blocks_carriedOut {state : BusState σ} (config : DeviceConfig) (function : UInt8)
    (address blockCount blockSize : UInt32) (buffer : Bytes)
    (accepted : AcceptedBlocks function address blockCount blockSize buffer.length)
    (fits : buffer.length ≤ config.lengthWidth.greatest) (free : state.locked = false) :
    let plan := fun direction => BlockRequest.plan ⟨direction, function, address, blockSize⟩
      config.incrementAddress blockCount.toNat buffer
    let read := (readBlocks config function address blockCount blockSize buffer).run model state
    let written := (writeBlocks config function address blockCount blockSize buffer).run model state
    CarriedOut (plan .fromCard) read.exchanges read.value.1
      ∧ CarriedOut (plan .toCard) written.exchanges written.value := by
  -- Both directions are the same request, and a write only drops the buffer from the result.
  constructor
  · exact (moveBlocks_follows model ⟨.fromCard, function, address, blockSize⟩ config blockCount buffer
      accepted fits free).carriedOut
  · have follows := moveBlocks_follows model ⟨.toCard, function, address, blockSize⟩ config blockCount
      buffer accepted fits free
    rw [run_writeBlocks]
    exact follows.carriedOut

end Run

/-- A request for 513 blocks takes two commands, the second of which the card flags here. -/
theorem blocks_carriedOut_across_end :
    let blockCount : UInt32 := 513
    let buffer : Bytes := List.replicate 520 7
    let state : BusState ScriptedHost :=
      { host := .ofScript { transfers := [{}, { response := [0x100] }] }, logger := { filter := .off } }
    let config : DeviceConfig := { incrementAddress := true, lengthWidth := .bits32 }
    let plan := fun direction => BlockRequest.plan ⟨direction, 1, 0x1FFFF, 1⟩
      config.incrementAddress blockCount.toNat buffer
    AcceptedBlocks 1 0x1FFFF blockCount 1 buffer.length
      ∧ buffer.length ≤ config.lengthWidth.greatest ∧ state.locked = false
      ∧ (plan .toCard).map (·.command.argument) = [0x9FFFFFFF, 0x9C03FC02]
      ∧ let read := (readBlocks config 1 0x1FFFF blockCount 1 buffer).run ScriptedHost.model state
        let written := (writeBlocks config 1 0x1FFFF blockCount 1 buffer).run ScriptedHost.model state
        CarriedOut (plan .fromCard) read.exchanges read.value.1
          ∧ CarriedOut (plan .toCard) written.exchanges written.value := by
  intro blockCount buffer state config plan
  have length : buffer.length = 520 := List.length_replicate
  have accepted : AcceptedBlocks 1 0x1FFFF blockCount 1 buffer.length := by
    rw [length]
    exact ⟨⟨by decide, by decide⟩, by decide, by decide, by decide, by decide, by decide⟩
  have fits : buffer.length ≤ config.lengthWidth.greatest := by
    rw [length]
    decide
  have free : state.locked = false := rfl
  exact ⟨accepted, fits, free, by decide,
    blocks_carriedOut ScriptedHost.model config 1 0x1FFFF blockCount 1 buffer accepted fits free⟩

end CardLink
