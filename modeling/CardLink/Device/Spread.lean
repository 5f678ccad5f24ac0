import CardLink.Device.Block

/-! Block transfers between registers and several buffers, moved by one command. -/

namespace CardLink

/-- The number of blocks in so many bytes, refused if they do not fit one command. -/
def spreadBlockCount (totalLength : Nat) (blockSize : UInt32) : Except DeviceError UInt32 := do
  if blockSize = 0 ∨ blockSize > maxBlockSize then throw .lengthInvalid
  if totalLength = 0 ∨ totalLength % blockSize.toNat ≠ 0 then throw .lengthInvalid
  let blocks := totalLength / blockSize.toNat
  if blocks > maxBlockCount.toNat ∨ (blocks = 1 ∧ blockSize > maxByteCount) then
    throw .lengthInvalid
  return UInt32.ofNat blocks

/-- The count field of a transfer: blocks in block mode, else the bytes of its only block. -/
def countField (mode : ExtendedMode) (blockCount blockSize : UInt32) : UInt32 :=
  if mode.blockMode then blockCount else blockSize

/--
Lays buffers one after another and moves them with one command: the result, and their memory.

This is what a machine does whose length words hold the total of the first eight lengths, as
`Machine.moveLaidOut_eq` states.
-/
def moveLaidOut (config : DeviceConfig) (request : BlockRequest) (lengths : List Nat)
    (memory : Bytes) : Bus (Except DeviceError Unit × Bytes) :=
  match SegmentList.ofLengths lengths with
  | .error cause => return (.error cause, memory)
  | .ok list =>
    match spreadBlockCount list.totalLength request.blockSize with
    | .error cause => return (.error cause, memory)
    | .ok blockCount =>
      let mode := ExtendedMode.ofTransfer blockCount config.incrementAddress
      let count := countField mode blockCount request.blockSize
      moveExtended (request.access mode request.address count)
        { blockSize := request.blockSize, blockCount,
          buffer := .spread request.direction list memory }

/-- Moves blocks between registers and several buffers: the result, and the buffers afterwards. -/
def moveSpread (config : DeviceConfig) (request : BlockRequest) (buffers : List Bytes) :
    Bus (Except DeviceError Unit × List Bytes) :=
  match checkTarget request.function request.address with
  | .error cause => return (.error cause, buffers)
  -- The list is built with the lock held, so nobody else sees it before it is complete.
  | .ok () => holdingBus config buffers do
    let lengths := buffers.map List.length
    let (result, memory) ← moveLaidOut config request lengths buffers.flatten
    return (result, splitLengths lengths memory)

/-- Reads blocks across buffers: the result, and the buffers afterwards. -/
def readSpread (config : DeviceConfig) (function : UInt8) (address blockSize : UInt32)
    (buffers : List Bytes) : Bus (Except DeviceError Unit × List Bytes) :=
  moveSpread config ⟨.fromCard, function, address, blockSize⟩ buffers

/-- Writes blocks gathered from buffers. -/
def writeSpread (config : DeviceConfig) (function : UInt8) (address blockSize : UInt32)
    (buffers : List Bytes) : Bus (Except DeviceError Unit) := do
  let moved ← moveSpread config ⟨.toCard, function, address, blockSize⟩ buffers
  return moved.1

end CardLink
