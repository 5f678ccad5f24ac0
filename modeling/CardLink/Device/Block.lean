import CardLink.Device

/-! Block transfers between registers and one plain buffer, cut to what a single command can move. -/

namespace CardLink

/-- The number of bytes of a request for blocks, refused if the request or its buffer is unfit. -/
def blockLength (config : DeviceConfig) (function : UInt8) (address blockCount blockSize : UInt32)
    (bufferLength : Nat) : Except DeviceError Nat := do
  checkTarget function address
  if blockCount = 0 ∨ blockSize = 0 ∨ blockSize > maxBlockSize then throw .lengthInvalid
  -- One block alone goes in byte mode, whose count field ends at 512.
  if blockCount = 1 ∧ blockSize > maxByteCount then throw .lengthInvalid
  let length := blockCount.toNat * blockSize.toNat
  if config.lengthWidth.greatest < length then throw .lengthInvalid
  if bufferLength < length then throw .lengthInvalid
  return length

/-- The number of bytes in the longest command in block mode. -/
def chunkLength (blockSize : UInt32) : Nat := maxBlockCount.toNat * blockSize.toNat

/-- The next pieces of the given length, so many of them; the last one takes what is left. -/
def pieces (length : Nat) : Nat → Bytes → List Bytes
  | 0, _ => []
  | count + 1, bytes => bytes.take length :: pieces length count (bytes.drop length)

/-- Cuts bytes into pieces of one length, the last of them possibly shorter. -/
def chunks (length : Nat) (bytes : Bytes) : List Bytes :=
  pieces length ((bytes.length + length - 1) / length) bytes

/-- The register address behind so many bytes: it stays in fixed mode and wraps in the other. -/
def nextAddress (mode : ExtendedMode) (address : UInt32) (length : Nat) : UInt32 :=
  if mode.increments then (address + UInt32.ofNat length) &&& maxAddress else address

/-- Issues one extended transfer: its result, and the memory of its buffer afterwards. -/
def moveExtended (access : ExtendedAccess) (data : DataPhase) :
    Bus (Except DeviceError Unit × Bytes) := do
  let command := Command.ioExtended access
  let reply ← execute { command, data := some data }
  match reply.outcome with
  | .error cause => return (.error (.bus cause), reply.memory)
  | .ok () =>
    let judged ← (acceptIoStatus command reply.response).run
    return (judged.map fun _ => (), reply.memory)

/-- A request to move blocks. -/
structure BlockRequest where
  /-- Which way the bytes go. -/
  direction : Direction
  /-- The I/O function that owns the registers. -/
  function : UInt8
  /-- The address of the first register. -/
  address : UInt32
  /-- The number of bytes in one block. -/
  blockSize : UInt32
  deriving DecidableEq

/-- The argument of a transfer of this request. -/
def BlockRequest.access (request : BlockRequest) (mode : ExtendedMode) (address count : UInt32) :
    ExtendedAccess :=
  ⟨request.direction = .toCard, request.function, address, mode, count⟩

/-- Moves chunks one command at a time up to the first failure: the result, and all bytes afterwards. -/
def moveChunks (request : BlockRequest) (mode : ExtendedMode) :
    List Bytes → UInt32 → Bus (Except DeviceError Unit × Bytes)
  | [], _ => return (.ok (), [])
  | chunk :: rest, address => do
    let blocks := UInt32.ofNat (chunk.length / request.blockSize.toNat)
    let first ← moveExtended (request.access mode address blocks)
      { blockSize := request.blockSize, blockCount := blocks, buffer := .plain request.direction chunk }
    match first.1 with
    | .error cause => return (.error cause, first.2 ++ rest.flatten)
    | .ok () =>
      let others ← moveChunks request mode rest (nextAddress mode address chunk.length)
      return (others.1, first.2 ++ others.2)

/-- Moves the bytes of an accepted request: one command in byte mode, or chunks in block mode. -/
def moveAccepted (config : DeviceConfig) (request : BlockRequest) (blockCount : UInt32)
    (bytes : Bytes) : Bus (Except DeviceError Unit × Bytes) :=
  let mode := ExtendedMode.ofTransfer blockCount config.incrementAddress
  if mode.blockMode then
    moveChunks request mode (chunks (chunkLength request.blockSize) bytes) request.address
  else
    moveExtended (request.access mode request.address request.blockSize)
      { blockSize := request.blockSize, blockCount := 1, buffer := .plain request.direction bytes }

/-- Moves blocks between registers and the front of a buffer: the result, and the buffer afterwards. -/
def moveBlocks (config : DeviceConfig) (request : BlockRequest) (blockCount : UInt32)
    (buffer : Bytes) : Bus (Except DeviceError Unit × Bytes) :=
  match blockLength config request.function request.address blockCount request.blockSize
      buffer.length with
  | .error cause => return (.error cause, buffer)
  | .ok length => holdingBus config buffer do
    let (result, front) ← moveAccepted config request blockCount (buffer.take length)
    return (result, front ++ buffer.drop length)

/-- Reads blocks into the front of a buffer: the result, and the buffer afterwards. -/
def readBlocks (config : DeviceConfig) (function : UInt8) (address blockCount blockSize : UInt32)
    (buffer : Bytes) : Bus (Except DeviceError Unit × Bytes) :=
  moveBlocks config ⟨.fromCard, function, address, blockSize⟩ blockCount buffer

/-- Writes blocks from the front of a buffer. -/
def writeBlocks (config : DeviceConfig) (function : UInt8) (address blockCount blockSize : UInt32)
    (buffer : Bytes) : Bus (Except DeviceError Unit) := do
  let moved ← moveBlocks config ⟨.toCard, function, address, blockSize⟩ blockCount buffer
  return moved.1

end CardLink
