import CardLink.Device.Spread
import CardLink.Machine.Block

/-! Block transfers between registers and several buffers, with every length in a machine word. -/

namespace CardLink

namespace Machine

variable {width : LengthWidth}

/-- The list with one more segment at its end and its bytes counted, refused if the list is full. -/
def append (rigour : Rigour) (width : LengthWidth) (list : SegmentList) (segment : Segment) :
    Except Mishap (Except DeviceError SegmentList) :=
  if list.segments.length < SegmentList.capacity then do
    let total ← LengthWord.sum rigour (.ofNat width.bits list.totalLength)
      (.ofNat width.bits segment.length)
    return .ok ⟨list.segments ++ [segment], total.toNat⟩
  else return .error .segmentsFull

/-- The list with neighbouring segments of the given lengths appended, the first at the given offset. -/
def appendAll (rigour : Rigour) (width : LengthWidth) (list : SegmentList) (offset : Nat) :
    List Nat → Except Mishap (Except DeviceError SegmentList)
  | [] => return .ok list
  | length :: rest => do
    match ← append rigour width list ⟨offset, length⟩ with
    | .error cause => return .error cause
    | .ok longer => appendAll rigour width longer (offset + length) rest

/-- The number of blocks in so many bytes, refused if they do not fit one command. -/
def spreadBlockCount (rigour : Rigour) (totalLength : LengthWord width) (blockSize : UInt32) :
    Except Mishap (Except DeviceError UInt32) := do
  if blockSize = 0 ∨ blockSize > maxBlockSize then return .error .lengthInvalid
  let size := LengthWord.ofCount width blockSize
  if totalLength = 0 then return .error .lengthInvalid
  let left ← LengthWord.remainder rigour totalLength size
  if left ≠ 0 then return .error .lengthInvalid
  let blocks ← LengthWord.quotient rigour totalLength size
  if blocks > .ofCount width maxBlockCount ∨ (blocks = 1 ∧ blockSize > maxByteCount) then
    return .error .lengthInvalid
  let count ← blocks.toCount rigour
  return .ok count

/-- Lays buffers one after another and moves them with one command: the result, and their memory. -/
def moveLaidOut (rigour : Rigour) (config : DeviceConfig) (request : BlockRequest)
    (lengths : List Nat) (memory : Bytes) : MachineProgram (Except DeviceError Unit × Bytes) := do
  match ← appendAll rigour config.lengthWidth .empty 0 lengths with
  | .error cause => return (.error cause, memory)
  | .ok list =>
    let total : LengthWord config.lengthWidth := .ofNat _ list.totalLength
    match ← spreadBlockCount rigour total request.blockSize with
    | .error cause => return (.error cause, memory)
    | .ok blockCount =>
      let mode := ExtendedMode.ofTransfer blockCount config.incrementAddress
      let count := countField mode blockCount request.blockSize
      let start ← addressField rigour request.address
      moveExtended (request.access mode start count)
        { blockSize := request.blockSize, blockCount,
          buffer := .spread request.direction list memory }

/-- Moves blocks between registers and several buffers: the result, and the buffers afterwards. -/
def moveSpread (rigour : Rigour) (config : DeviceConfig) (request : BlockRequest)
    (buffers : List Bytes) : MachineProgram (Except DeviceError Unit × List Bytes) :=
  match checkTarget request.function request.address with
  | .error cause => return (.error cause, buffers)
  | .ok () => holdingBus config buffers do
    let lengths := buffers.map List.length
    let (result, memory) ← moveLaidOut rigour config request lengths buffers.flatten
    return (result, splitLengths lengths memory)

/-- Reads blocks across buffers: the result, and the buffers afterwards. -/
def readSpread (rigour : Rigour) (config : DeviceConfig) (function : UInt8)
    (address blockSize : UInt32) (buffers : List Bytes) :
    MachineProgram (Except DeviceError Unit × List Bytes) :=
  moveSpread rigour config ⟨.fromCard, function, address, blockSize⟩ buffers

/-- Writes blocks gathered from buffers. -/
def writeSpread (rigour : Rigour) (config : DeviceConfig) (function : UInt8)
    (address blockSize : UInt32) (buffers : List Bytes) :
    MachineProgram (Except DeviceError Unit) := do
  let moved ← moveSpread rigour config ⟨.toCard, function, address, blockSize⟩ buffers
  return moved.1

end Machine

end CardLink
