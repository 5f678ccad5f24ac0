import CardLink.Device.Block
import CardLink.Machine

/-! Block transfers between registers and one plain buffer, with every length in a machine word. -/

namespace CardLink

namespace Machine

variable {width : LengthWidth}

/-- The number of bytes of a request for blocks, refused if the request or its buffer is unfit. -/
def blockLength (function : UInt8) (address blockCount blockSize : UInt32)
    (bufferLength : LengthWord width) : Except DeviceError (LengthWord width) := do
  checkTarget function address
  if blockCount = 0 ∨ blockSize = 0 ∨ blockSize > maxBlockSize then throw .lengthInvalid
  if blockCount = 1 ∧ blockSize > maxByteCount then throw .lengthInvalid
  -- A product that no word holds is greater than any buffer.
  match LengthWord.product? (.ofCount width blockCount) (.ofCount width blockSize) with
  | none => throw .lengthInvalid
  | some length =>
    if bufferLength < length then throw .lengthInvalid
    return length

/-- The number of bytes in the longest command in block mode. -/
def chunkLength (rigour : Rigour) (width : LengthWidth) (blockSize : UInt32) :
    Except Mishap (LengthWord width) :=
  LengthWord.product rigour (.ofCount width maxBlockCount) (.ofCount width blockSize)

/-- Cuts bytes into chunks of one length, the last of them possibly shorter. -/
def chunks (rigour : Rigour) (length : LengthWord width) (bytes : Bytes) :
    Except Mishap (List Bytes) := do
  rigour.heed .emptyChunks (length = 0)
  return CardLink.chunks length.toNat bytes

/-- The number of blocks in a chunk. -/
def chunkBlocks (rigour : Rigour) (width : LengthWidth) (blockSize : UInt32) (chunk : Bytes) :
    Except Mishap UInt32 := do
  let blocks ← LengthWord.quotient rigour (.ofBytes width chunk) (.ofCount width blockSize)
  blocks.toCount rigour

/-- The register address behind so many bytes: it stays in fixed mode and wraps in the other. -/
def nextAddress (rigour : Rigour) (mode : ExtendedMode) (address : UInt32)
    (length : LengthWord width) : Except Mishap UInt32 :=
  if mode.increments then do
    let step ← length.toCount rigour
    -- The address goes round in seventeen bits, and never in the thirty-two of its word.
    rigour.heed .wrapped (address.toBitVec.uaddOverflow step.toBitVec)
    return (address + step) &&& maxAddress
  else return address

/-- Moves chunks one command at a time up to the first failure: the result, and all bytes afterwards. -/
def moveChunks (rigour : Rigour) (width : LengthWidth) (request : BlockRequest)
    (mode : ExtendedMode) :
    List Bytes → UInt32 → MachineProgram (Except DeviceError Unit × Bytes)
  | [], _ => return (.ok (), [])
  | chunk :: rest, address => do
    let blocks ← chunkBlocks rigour width request.blockSize chunk
    let start ← addressField rigour address
    let first ← moveExtended (request.access mode start blocks)
      { blockSize := request.blockSize, blockCount := blocks, buffer := .plain request.direction chunk }
    match first.1 with
    | .error cause => return (.error cause, first.2 ++ rest.flatten)
    | .ok () =>
      let next ← nextAddress rigour mode address (.ofBytes width chunk)
      let others ← moveChunks rigour width request mode rest next
      return (others.1, first.2 ++ others.2)

/-- Moves the front of a buffer: one command in byte mode, or chunks in block mode. -/
def moveFront (rigour : Rigour) (config : DeviceConfig) (request : BlockRequest)
    (blockCount : UInt32) (buffer : Bytes) (length : LengthWord width) :
    MachineProgram (Except DeviceError Unit × Bytes) := do
  let mode := ExtendedMode.ofTransfer blockCount config.incrementAddress
  let bytes ← front rigour buffer length
  if mode.blockMode then
    let longest ← chunkLength rigour width request.blockSize
    let parts ← chunks rigour longest bytes
    moveChunks rigour width request mode parts request.address
  else
    let start ← addressField rigour request.address
    moveExtended (request.access mode start request.blockSize)
      { blockSize := request.blockSize, blockCount := 1, buffer := .plain request.direction bytes }

/-- Moves blocks between registers and the front of a buffer: the result, and the buffer afterwards. -/
def moveBlocks (rigour : Rigour) (config : DeviceConfig) (request : BlockRequest)
    (blockCount : UInt32) (buffer : Bytes) : MachineProgram (Except DeviceError Unit × Bytes) :=
  match blockLength request.function request.address blockCount request.blockSize
      (.ofBytes config.lengthWidth buffer) with
  | .error cause => return (.error cause, buffer)
  | .ok length => holdingBus config buffer do
    let (result, after) ← moveFront rigour config request blockCount buffer length
    return (result, after ++ buffer.drop length.toNat)

/-- Reads blocks into the front of a buffer: the result, and the buffer afterwards. -/
def readBlocks (rigour : Rigour) (config : DeviceConfig) (function : UInt8)
    (address blockCount blockSize : UInt32) (buffer : Bytes) :
    MachineProgram (Except DeviceError Unit × Bytes) :=
  moveBlocks rigour config ⟨.fromCard, function, address, blockSize⟩ blockCount buffer

/-- Writes blocks from the front of a buffer. -/
def writeBlocks (rigour : Rigour) (config : DeviceConfig) (function : UInt8)
    (address blockCount blockSize : UInt32) (buffer : Bytes) :
    MachineProgram (Except DeviceError Unit) := do
  let moved ← moveBlocks rigour config ⟨.toCard, function, address, blockSize⟩ blockCount buffer
  return moved.1

end Machine

end CardLink
