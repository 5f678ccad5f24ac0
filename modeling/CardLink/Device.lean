import CardLink.Operation

/-! A card behind a locked bus: its configuration, the lock, and access to single registers. -/

namespace CardLink

/-- How long a caller waits for the bus lock. -/
inductive LockPolicy where
  /-- Until the lock is free. -/
  | waitForever
  /-- For so many attempts, at least one. -/
  | giveUpAfter (attempts : UInt32) (positive : 0 < attempts)
  deriving DecidableEq

/-- The policy for a number of attempts, where zero sets no limit. -/
def LockPolicy.ofAttempts (attempts : UInt32) : LockPolicy :=
  if positive : 0 < attempts then giveUpAfter attempts positive else waitForever

/-- How a device uses its card. -/
structure DeviceConfig where
  /-- Extended transfers advance the register address with each byte. -/
  incrementAddress : Bool := false
  /-- How long a caller waits for the bus. -/
  lockPolicy : LockPolicy := .waitForever
  /-- The width of length words on the machine. -/
  lengthWidth : LengthWidth := .bits64
  deriving DecidableEq

/-- The settings of a configuration, for people to read. -/
def DeviceConfig.text (config : DeviceConfig) : String :=
  let attempts := match config.lockPolicy with
    | .waitForever => "None"
    | .giveUpAfter attempts _ => "Some(" ++ decimal attempts.toNat ++ ")"
  "SdioConfig \x7b increment_address: " ++ (if config.incrementAddress then "true" else "false")
    ++ ", lock_attempts: " ++ attempts ++ " \x7d"

/-- A program that ends with a value or with a device failure. -/
abbrev DeviceProgram (α : Type) : Type := ExceptT DeviceError Bus α

/-- Brings the host up; whatever the host reports, a failure means that it is not ready. -/
def openDevice : DeviceProgram Unit := do
  match ← Bus.request .bringUp with
  | .ok () => return ()
  | .error cause =>
    Bus.log .error ("SDIO: host init failed: " ++ cause.message)
    throw (.bus .hostNotReady)

/-- Takes the bus lock, or gives up as the policy says. -/
def acquire (policy : LockPolicy) : DeviceProgram Unit := do
  -- Nothing runs between two attempts of one caller, so the first attempt answers for all of them.
  if ← Bus.attemptLock then return ()
  match policy with
  -- A caller that waits for itself never goes on: this mark of it ends the program around the wait.
  | .waitForever => throw .selfBlocked
  | .giveUpAfter attempts _ =>
    Bus.log .warn ("SDIO: bus lock not acquired after " ++ decimal attempts.toNat ++ " attempts")
    throw .lockTimeout

/-- Runs a program on a memory with the bus lock held, and gives the lock back whatever the result is. -/
def holdingBus {α μ : Type} (config : DeviceConfig) (memory : μ)
    (body : Bus (Except DeviceError α × μ)) : Bus (Except DeviceError α × μ) := do
  match ← (acquire config.lockPolicy).run with
  | .error cause => return (.error cause, memory)
  | .ok () =>
    let result ← body
    Bus.release
    return result

/-- Runs card operations on a memory with the bus lock held; their failure is a failure of the bus. -/
def withBus {α μ : Type} (config : DeviceConfig) (memory : μ)
    (body : Bus (Except CardError α × μ)) : Bus (Except DeviceError α × μ) :=
  holdingBus config memory do
    let (result, after) ← body
    return (result.mapError .bus, after)

/-- Refuses a function or an address that its field cannot hold, the function first. -/
def checkTarget (function : UInt8) (address : UInt32) : Except DeviceError Unit :=
  if function > maxFunction then .error .functionInvalid
  else if address > maxAddress then .error .addressInvalid
  else .ok ()

/-- Takes the first response word as an I/O status and refuses one that flags a fault. -/
def acceptIoStatus (command : Command) (response : Response) : DeviceProgram IoStatus := do
  let status : IoStatus := ⟨response.word0⟩
  if status.faulty then
    Bus.log .debug ("SDIO: CMD" ++ decimal command.index.toNat ++ " R5 error flags "
      ++ hexadecimal 4 (status.word &&& 0xFF00).toNat)
    throw (.bus .transferFailed)
  else return status

/-- Issues a register access and returns the value in the answer. -/
def accessRegister (access : DirectAccess) : DeviceProgram UInt8 := do
  let command := Command.ioDirect access
  let response ← (issue command).adapt DeviceError.bus
  let status ← acceptIoStatus command response
  return status.data

/-- Accesses a register with the bus lock held, after its target was checked. -/
def accessLocked (config : DeviceConfig) (access : DirectAccess) : DeviceProgram UInt8 := do
  checkTarget access.function access.address
  ExceptT.mk do
    let held ← holdingBus config () do
      let result ← (accessRegister access).run
      return (result, ())
    return held.1

/-- Reads a register. -/
def readRegister (config : DeviceConfig) (function : UInt8) (address : UInt32) :
    DeviceProgram UInt8 :=
  accessLocked config ⟨false, function, address, false, 0⟩

/-- Writes a register. -/
def writeRegister (config : DeviceConfig) (function : UInt8) (address : UInt32) (value : UInt8) :
    DeviceProgram Unit := do
  let _ ← accessLocked config ⟨true, function, address, false, value⟩

/-- Writes a register and returns its value after the write. -/
def writeReadRegister (config : DeviceConfig) (function : UInt8) (address : UInt32)
    (value : UInt8) : DeviceProgram UInt8 :=
  accessLocked config ⟨true, function, address, true, value⟩

end CardLink
