/-! The two families of failure: what a card operation reports, and what a device request reports. -/

namespace CardLink

/-- Why an operation on the card failed. -/
inductive CardError where
  /-- The transfer did not complete, or the card flagged the command as failed. -/
  | transferFailed
  /-- The card did not accept an application command. -/
  | commandUnsupported
  /-- The data lines did not follow the voltage handshake. -/
  | voltageSwitchFailed
  /-- No valid sampling point was found. -/
  | tuningFailed
  /-- The host controller did not come up. -/
  | hostNotReady
  /-- A parameter cannot be encoded for the command. -/
  | argumentInvalid
  deriving DecidableEq

/-- The wording of a card failure. -/
def CardError.message : CardError → String
  | .transferFailed => "transfer failed"
  | .commandUnsupported => "card does not support the command"
  | .voltageSwitchFailed => "voltage switch failed"
  | .tuningFailed => "tuning failed"
  | .hostNotReady => "host controller not ready"
  | .argumentInvalid => "invalid argument"

/-- Why a request to a device failed. -/
inductive DeviceError where
  /-- A command failed on the bus or in the card. -/
  | bus (cause : CardError)
  /-- The function number is outside the eight functions of a card. -/
  | functionInvalid
  /-- The register address does not fit its field. -/
  | addressInvalid
  /-- The buffer does not match the requested blocks. -/
  | lengthInvalid
  /-- The bus was not free within the allowed attempts. -/
  | lockTimeout
  /-- The segment list is full. -/
  | segmentsFull
  /-- The caller waits without limit for a bus that it holds itself: it gets no answer, and never goes on. -/
  | selfBlocked
  deriving DecidableEq

/-- The wording of a device failure. -/
def DeviceError.message : DeviceError → String
  | .bus cause => "bus error: " ++ cause.message
  | .functionInvalid => "invalid function number"
  | .addressInvalid => "invalid register address"
  | .lengthInvalid => "buffer length does not match transfer"
  | .lockTimeout => "bus lock timeout"
  | .segmentsFull => "scatter-gather list full"
  | .selfBlocked => "bus lock held by its own caller"

end CardLink
