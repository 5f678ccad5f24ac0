import CardLink.Operation.Tuning
import CardLink.Operation.Voltage

/-! Card operations as data: what a client asks of a bare host, and the answer to each request. -/

namespace CardLink

/-- The data phase that goes with a raw transfer. -/
structure DataRequest where
  /-- Bytes in one block. -/
  blockSize : UInt32
  /-- Number of blocks. -/
  blockCount : UInt32
  /-- Which way the bytes go. -/
  direction : Direction
  /-- All buffers are moved together; otherwise only the first one is. -/
  spread : Bool
  /-- The buffers. -/
  buffers : List Bytes
  /-- The data phase is marked as a tuning block. -/
  tuning : Bool
  deriving DecidableEq

/-- The buffer of the data phase, refused if there are more buffers than segments. -/
def DataRequest.buffer (request : DataRequest) : Except DeviceError DataBuffer :=
  if request.spread then do
    let list ← SegmentList.ofLengths (request.buffers.map List.length)
    return .spread request.direction list request.buffers.flatten
  else .ok (.plain request.direction (request.buffers.headD []))

/-- The buffers after a transfer that left this memory. -/
def DataRequest.buffersAfter (request : DataRequest) (memory : Bytes) : List Bytes :=
  if request.spread then splitLengths (request.buffers.map List.length) memory
  else memory :: request.buffers.tail

/-- A request to a bare host. -/
inductive HostStep where
  | selectCard (card : UInt16) (select : Bool)
  | announceApplication (card : UInt16)
  | setBlockCount (count : UInt32)
  | setBlockSize (size : UInt32)
  | goIdle
  | goPreIdle
  | setCardInactive (card : UInt16)
  | switchVoltage
  | executeTuning (index : UInt8) (blockSize start step : UInt32)
  | execute (command : Command) (data : Option DataRequest)
  deriving DecidableEq

/-- The answer to a request. -/
inductive HostAnswer where
  /-- An operation ended. -/
  | finished (result : Except CardError Unit)
  /-- A raw transfer ended with these response words and, for a read, these buffers. -/
  | executed (result : Except CardError Unit) (response : Response) (buffers : Option (List Bytes))
  /-- The buffers of a raw transfer do not fit a segment list, and nothing was issued. -/
  | unfit (cause : DeviceError)

/-- The card failure in an answer. -/
def HostAnswer.failure? : HostAnswer → Option CardError
  | finished (.error cause) | executed (.error cause) _ _ => some cause
  | finished (.ok ()) | executed (.ok ()) _ _ | unfit _ => none

/-- Runs a raw transfer. -/
def executeRaw (command : Command) (data : Option DataRequest) : Bus HostAnswer :=
  match data with
  | none => do
    let reply ← execute { command }
    return .executed reply.outcome reply.response none
  | some request =>
    match request.buffer with
    | .error cause => return .unfit cause
    | .ok buffer => do
      let reply ← execute { command, data := some {
        blockSize := request.blockSize
        blockCount := request.blockCount
        buffer
        tuning := request.tuning } }
      let buffers := match request.direction with
        | .fromCard => some (request.buffersAfter reply.memory)
        | .toCard => none
      return .executed reply.outcome reply.response buffers

/-- The program of an operation that ends with nothing but its result. -/
def CardProgram.finished (program : CardProgram Unit) : Bus HostAnswer := do
  let result ← program.run
  return .finished result

/-- The program of a request. -/
def HostStep.program : HostStep → Bus HostAnswer
  | .selectCard card select => (CardLink.selectCard card select).finished
  | .announceApplication card => (CardLink.announceApplication card).finished
  | .setBlockCount count => (CardLink.setBlockCount count).finished
  | .setBlockSize size => (CardLink.setBlockSize size).finished
  | .goIdle => CardProgram.finished CardLink.goIdle
  | .goPreIdle => CardProgram.finished CardLink.goPreIdle
  | .setCardInactive card => (CardLink.setCardInactive card).finished
  | .switchVoltage => CardProgram.finished CardLink.switchVoltage
  | .executeTuning index blockSize start step =>
    (CardLink.executeTuning index blockSize start step).finished
  | .execute command data => executeRaw command data

end CardLink
