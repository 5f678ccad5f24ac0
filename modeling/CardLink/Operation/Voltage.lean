import CardLink.Operation

/-! The switch to 1.8 V signalling: a command, and a handshake over the data lines. -/

namespace CardLink

/-- How long the signalling level settles, in milliseconds. -/
def voltageSettleDelay : UInt32 := 5

/-- How long the clock is forced on after the switch, in milliseconds. -/
def voltageClockDelay : UInt32 := 1

/-- Switches to 1.8 V: the card must hold the data lines low before, and let go of them afterwards. -/
def switchVoltage : CardProgram Unit := do
  issueUnchecked .voltageSwitch
  Bus.request (.cardClock false)
  let before ← Bus.request .lineStatus
  if before.anyDataHigh then
    Bus.log .debug ("SDMMC: data lines not held low after CMD11: " ++ before.text)
    throw .voltageSwitchFailed
  Bus.request (.lowVoltage true)
  Bus.request (.delay voltageSettleDelay)
  Bus.request (.cardClock true)
  -- The clock runs without a command for a moment, so that the card sees the new level.
  Bus.request (.forceClock true)
  Bus.request (.delay voltageClockDelay)
  Bus.request (.forceClock false)
  let after ← Bus.request .lineStatus
  if after.anyDataHigh then return ()
  else
    Bus.log .debug "SDMMC: data lines not released after 1.8V switch"
    throw .voltageSwitchFailed

end CardLink
