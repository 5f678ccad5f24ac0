import CardLink.Operation

/-! Standard tuning: windows of tuning blocks until the host has found its sampling point. -/

namespace CardLink

/-- The wait after each tuning block, in milliseconds. -/
def tuningPollDelay : UInt32 := 1

/-- The most tuning commands in one window. -/
def tuningCommandLimit : Nat := 40

/-- The largest tuning block. -/
def maxTuningBlockSize : Nat := 128

/-- The read of one tuning block into the front of a buffer. -/
def tuningTransfer (index : UInt8) (blockSize : UInt32) (buffer : Bytes) : Transfer where
  command := .tuningBlock index
  data := some {
    blockSize
    blockCount := 1
    buffer := .plain .fromCard (buffer.take blockSize.toNat)
    tuning := true }

/--
Issues tuning commands until the host wants no more of them, or has had too many since tuning was
switched on.

An error starts the count of commands anew, if there is a restart left. All commands read into one
buffer. Tuning is switched off only where a command fails or the count is used up.
-/
def tuningLoop (index : UInt8) (blockSize start step : UInt32) (buffer : Bytes) (restart : Bool)
    (commands : Nat) : CardProgram Unit :=
  if tuningCommandLimit ≤ commands then do
    Bus.log .debug ("SDMMC: tuning still active after " ++ decimal tuningCommandLimit ++ " commands")
    Bus.request (.tune start step false)
    throw .tuningFailed
  else do
    let reply ← execute (tuningTransfer index blockSize buffer)
    match reply.outcome with
    | .error cause =>
      Bus.request (.tune start step false)
      throw cause
    | .ok () =>
      let filled := overwrite buffer 0 reply.memory
      Bus.request (.delay tuningPollDelay)
      let status ← Bus.request .tuningStatus
      if status.active then
        tuningLoop index blockSize start step filled restart (commands + 1)
      else if status.failed && restart then
        Bus.log .trace ("SDMMC: tuning error, restarting window at " ++ decimal start.toNat)
        Bus.request (.tune start step true)
        tuningLoop index blockSize start step filled false 0
      else return ()
-- The count comes down with each command, and starts anew only when the one restart is used up.
termination_by (restart.toNat, tuningCommandLimit - commands)
decreasing_by
  · have within : commands < tuningCommandLimit := Nat.lt_of_not_le ‹_›
    exact .right _ (Nat.sub_succ_lt_self _ _ within)
  · have again : restart = true := (Bool.and_eq_true_iff.mp ‹_›).2
    exact .left _ _ (by rw [again]; exact Nat.zero_lt_one)

/-- Tunes the host; what counts in the end is that it found its sampling point. -/
def executeTuning (index : UInt8) (blockSize start step : UInt32) : CardProgram Unit := do
  if blockSize.toNat = 0 ∨ blockSize.toNat > maxTuningBlockSize then throw .argumentInvalid
  Bus.request (.tune start step true)
  tuningLoop index blockSize start step (List.replicate maxTuningBlockSize 0) true 0
  let status ← Bus.request .tuningStatus
  if status.sampling then return ()
  else
    Bus.log .debug "SDMMC: tuning found no sampling point"
    throw .tuningFailed

end CardLink
