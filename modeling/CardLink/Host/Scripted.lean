import CardLink.Bus

/-! A host that answers from a script: responses and failures per transfer, and a stream of card bytes. -/

namespace CardLink

/-- What a script says about one transfer. -/
structure TransferScript where
  /-- The words stored over the first response words. -/
  response : List UInt32 := []
  /-- The failure to report, if any. -/
  failure : Option CardError := none
  /-- The most bytes to move, if there is a limit. -/
  limit : Option Nat := none
  deriving DecidableEq

/-- How many bytes of a buffer a transfer moves: none if it fails, else all up to the limit. -/
def TransferScript.moves (entry : TransferScript) (length : Nat) : Nat :=
  if entry.failure.isSome then 0 else min (entry.limit.getD length) length

/-- The answers of a host, fixed in advance. -/
structure HostScript where
  /-- The failure to report when the host is brought up, if any. -/
  bringUpFailure : Option CardError := none
  /-- The transfers in order. -/
  transfers : List TransferScript := []
  /-- Every transfer past the listed ones. -/
  furtherTransfers : TransferScript := {}
  /-- The line levels read in order, the last of them for good. -/
  lineStatuses : List UInt32 := []
  /-- The tuning states read in order, the last of them for good. -/
  tuningStatuses : List UInt32 := []
  /-- The first byte that the card sends. -/
  streamStart : Nat := 0
  /-- How much each byte that the card sends exceeds the one before. -/
  streamStep : Nat := 0
  deriving DecidableEq

/-- How far a scripted host has come. -/
structure ScriptedHost where
  /-- The script. -/
  script : HostScript
  /-- Transfers so far, failed ones too. -/
  transfers : Nat := 0
  /-- Reads of the line levels so far. -/
  lineReads : Nat := 0
  /-- Reads of the tuning state so far. -/
  tuningReads : Nat := 0
  /-- Bytes that the card sent so far. -/
  sent : Nat := 0
  /-- Bytes that the card received so far. -/
  received : Bytes := []
  deriving DecidableEq

/-- The byte of an arithmetic sequence at a place, modulo 256. -/
def sequenceByte (start step place : Nat) : UInt8 := UInt8.ofNat (start + step * place)

/-- Consecutive bytes of an arithmetic sequence, from a place on. -/
def sequenceBytes (start step place count : Nat) : Bytes :=
  (List.range' place count).map (sequenceByte start step)

/-- The entry at a place, or the last entry past the end, or zero if there is none. -/
def entryAt (entries : List UInt32) (place : Nat) : UInt32 :=
  entries[place]?.getD (entries.getLast?.getD 0)

namespace ScriptedHost

/-- A host at the start of its script. -/
def ofScript (script : HostScript) : ScriptedHost := { script }

/-- The script of the next transfer. -/
def nextTransfer (host : ScriptedHost) : TransferScript :=
  host.script.transfers[host.transfers]?.getD host.script.furtherTransfers

/-- The next bytes that the card sends. -/
def stream (host : ScriptedHost) (count : Nat) : Bytes :=
  sequenceBytes host.script.streamStart host.script.streamStep host.sent count

/-- Runs the data phase of a transfer: the memory of its buffer after it, and the host after it. -/
def moveData (host : ScriptedHost) (buffer : DataBuffer) (count : Nat) : Bytes × ScriptedHost :=
  match buffer.direction with
  | .fromCard => (buffer.fill (host.stream count), { host with sent := host.sent + count })
  | .toCard => (buffer.memory, { host with received := host.received ++ buffer.firstBytes count })

/-- Answers a transfer; the response words are stored whatever the outcome is. -/
def transfer (host : ScriptedHost) (asked : Transfer) : TransferReply × ScriptedHost :=
  let entry := host.nextTransfer
  let outcome := match entry.failure with
    | none => .ok ()
    | some cause => .error cause
  let response := asked.command.response.store entry.response
  let counted := { host with transfers := host.transfers + 1 }
  match asked.data with
  | none => (⟨outcome, response, [], 0⟩, counted)
  | some data =>
    let count := entry.moves data.buffer.length
    let moved := counted.moveData data.buffer count
    (⟨outcome, response, moved.1, count⟩, moved.2)

/-- Answers a host call. -/
def answer : (call : HostCall) → ScriptedHost → call.Reply × ScriptedHost
  | .bringUp, host =>
    (match host.script.bringUpFailure with
      | none => .ok ()
      | some cause => .error cause, host)
  | .transfer asked, host => host.transfer asked
  | .cardClock _, host => ((), host)
  | .forceClock _, host => ((), host)
  | .lowVoltage _, host => ((), host)
  | .delay _, host => ((), host)
  | .tune _ _ _, host => ((), host)
  | .lineStatus, host =>
    (⟨entryAt host.script.lineStatuses host.lineReads⟩, { host with lineReads := host.lineReads + 1 })
  | .tuningStatus, host =>
    (⟨entryAt host.script.tuningStatuses host.tuningReads⟩,
      { host with tuningReads := host.tuningReads + 1 })

/-- The scripted host as a model of a host. -/
def model : HostModel ScriptedHost := ⟨answer⟩

end ScriptedHost

end CardLink
