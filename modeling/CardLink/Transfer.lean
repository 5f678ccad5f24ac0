import CardLink.Command
import CardLink.Segment

/-! Transfers: a command, and the bytes that move with it. -/

namespace CardLink

/-- Which way the bytes of a transfer go. -/
inductive Direction where
  /-- The card sends. -/
  | fromCard
  /-- The host sends. -/
  | toCard
  deriving DecidableEq

/-- The memory on the host's side of a transfer. -/
inductive DataBuffer where
  /-- One stretch of memory. -/
  | plain (direction : Direction) (bytes : Bytes)
  /-- Several stretches of one memory. -/
  | spread (direction : Direction) (list : SegmentList) (memory : Bytes)
  deriving DecidableEq

namespace DataBuffer

/-- Which way the bytes go. -/
def direction : DataBuffer → Direction
  | plain direction _ => direction
  | spread direction _ _ => direction

/-- The card sends. -/
def isRead (buffer : DataBuffer) : Bool := buffer.direction = .fromCard

/-- The number of bytes that the buffer describes. -/
def length : DataBuffer → Nat
  | plain _ bytes => bytes.length
  | spread _ list _ => list.totalLength

/-- The buffer describes no byte. -/
def isEmpty (buffer : DataBuffer) : Bool := buffer.length = 0

/-- The lengths of the stretches. -/
def segmentLengths : DataBuffer → List Nat
  | plain _ bytes => [bytes.length]
  | spread _ list _ => list.segments.map Segment.length

/-- The memory that the buffer lies in. -/
def memory : DataBuffer → Bytes
  | plain _ bytes => bytes
  | spread _ _ memory => memory

/-- The first bytes of the buffer, no more than asked for. -/
def firstBytes (buffer : DataBuffer) (count : Nat) : Bytes :=
  match buffer with
  | plain _ bytes => bytes.take count
  | spread _ list memory => (list.gather memory (List.replicate count 0)).2

/-- The memory after bytes were stored from the start of the buffer on. -/
def fill (buffer : DataBuffer) (bytes : Bytes) : Bytes :=
  match buffer with
  | plain _ old => overwrite old 0 bytes
  | spread _ list memory => (list.scatter memory bytes).2

end DataBuffer

/-- The data that goes with a command. -/
structure DataPhase where
  /-- Bytes in one block. -/
  blockSize : UInt32
  /-- Number of blocks. -/
  blockCount : UInt32
  /-- The memory that the bytes come from or go to. -/
  buffer : DataBuffer
  /-- The block is a tuning pattern and not data of the card. -/
  tuning : Bool := false
  deriving DecidableEq

/-- All fields of a data phase in one plain buffer, for people to read. -/
def DataPhase.text (data : DataPhase) : String :=
  let kind := match data.buffer.direction with
    | .fromCard => "Read"
    | .toCard => "Write"
  "Data \x7b block_size: " ++ decimal data.blockSize.toNat
    ++ ", block_count: " ++ decimal data.blockCount.toNat
    ++ ", buffer: " ++ kind ++ "(["
    ++ ", ".intercalate (data.buffer.memory.map fun byte => decimal byte.toNat)
    ++ "]), tuning: " ++ (if data.tuning then "true" else "false") ++ " \x7d"

/-- A command and, if bytes move with it, their data phase. -/
structure Transfer where
  /-- The command, its response still to come. -/
  command : Command
  /-- The data phase, if there is one. -/
  data : Option DataPhase := none
  deriving DecidableEq

/-- What a transfer left behind. -/
structure TransferReply where
  /-- Success, or the failure that the host reported. -/
  outcome : Except CardError Unit
  /-- The response words after the transfer. -/
  response : Response
  /-- The memory of the data buffer after the transfer; empty without a data phase. -/
  memory : Bytes
  /-- How many bytes moved. -/
  moved : Nat

end CardLink
