import CardLink.Device.Spread
import CardLink.Operation.Step

/-! Device requests as data: what a client asks of a device, nested requests included, and the answers. -/

namespace CardLink

mutual

/-- A request to a device. -/
inductive DeviceStep where
  | readRegister (function : UInt8) (address : UInt32)
  | writeRegister (function : UInt8) (address : UInt32) (value : UInt8)
  | writeReadRegister (function : UInt8) (address : UInt32) (value : UInt8)
  | readBlocks (function : UInt8) (address blockCount blockSize : UInt32) (buffer : Bytes)
  | writeBlocks (function : UInt8) (address blockCount blockSize : UInt32) (buffer : Bytes)
  | readSpread (function : UInt8) (address blockSize : UInt32) (buffers : List Bytes)
  | writeSpread (function : UInt8) (address blockSize : UInt32) (buffers : List Bytes)
  /-- Runs steps with the bus held, then fails with the given failure or ends with the given value. -/
  | withBus (steps : List InnerStep) (value : Nat) (failure : Option CardError)

/-- A step that runs while the bus is held. -/
inductive InnerStep where
  /-- A request to the host. -/
  | host (step : HostStep)
  /-- A request to the device whose bus is held. -/
  | device (step : DeviceStep)

end

mutual

/-- The answer of a device. -/
inductive DeviceAnswer where
  /-- A register value. -/
  | value (result : Except DeviceError UInt8)
  /-- Nothing but the result. -/
  | finished (result : Except DeviceError Unit)
  /-- The result and the buffer afterwards. -/
  | buffer (result : Except DeviceError Unit) (after : Bytes)
  /-- The result and the buffers afterwards. -/
  | buffers (result : Except DeviceError Unit) (after : List Bytes)
  /-- The result and the answers to the steps that ran while the bus was held. -/
  | bus (result : Except DeviceError Nat) (inner : List InnerAnswer)

/-- The answer to a step that ran while the bus was held. -/
inductive InnerAnswer where
  | host (answer : HostAnswer)
  | device (answer : DeviceAnswer)

end

/-- A result reached its caller, which did not wait for itself. -/
def resultReturned {α : Type} : Except DeviceError α → Bool
  | .error .selfBlocked => false
  | _ => true

mutual

/-- An answer reached its caller: neither that caller nor one within waits for itself. -/
def DeviceAnswer.returned : DeviceAnswer → Bool
  | .value result => resultReturned result
  | .finished result | .buffer result _ | .buffers result _ => resultReturned result
  | .bus result inner => resultReturned result && allReturned inner

/-- All answers reached their callers. -/
def allReturned : List InnerAnswer → Bool
  | [] => true
  | answer :: rest => answer.returned && allReturned rest

/-- The answer to an inner step reached the program around it. -/
def InnerAnswer.returned : InnerAnswer → Bool
  | .host _ => true
  | .device answer => answer.returned

end

mutual

/-- The program of a device request. -/
def DeviceStep.program (config : DeviceConfig) : DeviceStep → Bus DeviceAnswer
  | .readRegister function address => do
    let result ← (CardLink.readRegister config function address).run
    return .value result
  | .writeRegister function address value => do
    let result ← (CardLink.writeRegister config function address value).run
    return .finished result
  | .writeReadRegister function address value => do
    let result ← (CardLink.writeReadRegister config function address value).run
    return .value result
  | .readBlocks function address blockCount blockSize buffer => do
    let moved ← CardLink.readBlocks config function address blockCount blockSize buffer
    return .buffer moved.1 moved.2
  | .writeBlocks function address blockCount blockSize buffer => do
    let result ← CardLink.writeBlocks config function address blockCount blockSize buffer
    return .finished result
  | .readSpread function address blockSize buffers => do
    let moved ← CardLink.readSpread config function address blockSize buffers
    return .buffers moved.1 moved.2
  | .writeSpread function address blockSize buffers => do
    let result ← CardLink.writeSpread config function address blockSize buffers
    return .finished result
  | .withBus steps value failure => do
    let ended ← CardLink.withBus config [] do
      let (stopped, answers) ← innerSteps config steps
      return (match stopped <|> failure with
        | some cause => .error cause
        | none => .ok value, answers)
    return .bus ended.1 ended.2

/--
Runs steps up to the first host step that fails or the first device step that never returns: the
failure, if any, and the answers.
-/
def innerSteps (config : DeviceConfig) : List InnerStep → Bus (Option CardError × List InnerAnswer)
  | [] => return (none, [])
  | step :: rest => do
    let answered ← step.program config
    match answered.1 with
    | some cause => return (some cause, [answered.2])
    | none =>
      if answered.2.returned then
        let others ← innerSteps config rest
        return (others.1, answered.2 :: others.2)
      else return (none, [answered.2])

/-- The program of an inner step: the failure that stops the steps after it, if any, and the answer. -/
def InnerStep.program (config : DeviceConfig) : InnerStep → Bus (Option CardError × InnerAnswer)
  | .host step => do
    let answer ← step.program
    return (answer.failure?, .host answer)
  -- A device request that fails is answered, and the steps go on.
  | .device step => do
    let answer ← step.program config
    return (none, .device answer)

end

end CardLink
