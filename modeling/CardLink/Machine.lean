import CardLink.Device
import CardLink.Segment

/-!
Lengths in machine words, and what can go wrong where a program computes with them: some mishaps leave
nothing to go on with, and others only lose bits.
-/

namespace CardLink

/-- What can go wrong where a program computes with machine words. -/
inductive Mishap where
  /-- A sum, a difference or a product does not fit its word. -/
  | overflow
  /-- A number is divided by zero. -/
  | zeroDivisor
  /-- Bytes are asked for that lie behind the end of a buffer. -/
  | outOfRange
  /-- Bytes are cut into chunks of no length. -/
  | emptyChunks
  /-- A number loses bits in a narrower place. -/
  | bitsCut
  /-- A sum that may wrap round does so. -/
  | wrapped
  /-- A quotient leaves a remainder that is dropped. -/
  | remainderDropped
  deriving DecidableEq

/-- How much a machine lets pass. -/
inductive Rigour where
  /-- What does not fit its word wraps round. -/
  | lenient
  /-- What does not fit its word ends the program. -/
  | checked
  /-- Anything that is not exact ends the program. -/
  | exacting
  deriving DecidableEq

namespace Rigour

/-- The mishap ends a program. -/
def stopsAt : Rigour → Mishap → Bool
  -- Where there is no result to go on with, a program ends under any rigour.
  | _, .zeroDivisor | _, .outOfRange | _, .emptyChunks => true
  | lenient, _ => false
  | checked, mishap => mishap = .overflow
  | exacting, _ => true

/-- Ends the program if a mishap happened that the machine does not let pass. -/
def heed (rigour : Rigour) (mishap : Mishap) (happened : Bool) : Except Mishap Unit :=
  if happened && rigour.stopsAt mishap then .error mishap else .ok ()

end Rigour

namespace LengthWord

variable {width : LengthWidth}

/-- The length of a buffer. -/
def ofBytes (width : LengthWidth) (bytes : Bytes) : LengthWord width :=
  BitVec.ofNat width.bits bytes.length

/-- A number of 32 bits as a length, which is never narrower. -/
def ofCount (width : LengthWidth) (count : UInt32) : LengthWord width :=
  count.toBitVec.setWidth width.bits

/-- The product of two lengths, if it fits a word. -/
def product? (first second : LengthWord width) : Option (LengthWord width) :=
  if first.umulOverflow second then none else some (first * second)

/-- The product of two lengths. -/
def product (rigour : Rigour) (first second : LengthWord width) :
    Except Mishap (LengthWord width) := do
  rigour.heed .overflow (first.umulOverflow second)
  return first * second

/-- The sum of two lengths. -/
def sum (rigour : Rigour) (first second : LengthWord width) : Except Mishap (LengthWord width) := do
  rigour.heed .overflow (first.uaddOverflow second)
  return first + second

/-- The difference of two lengths. -/
def difference (rigour : Rigour) (first second : LengthWord width) :
    Except Mishap (LengthWord width) := do
  rigour.heed .overflow (first.usubOverflow second)
  return first - second

/-- The smaller one of two lengths. -/
def least (first second : LengthWord width) : LengthWord width :=
  if first ≤ second then first else second

/-- What is left of a length behind the last whole part. -/
def remainder (rigour : Rigour) (length part : LengthWord width) :
    Except Mishap (LengthWord width) := do
  rigour.heed .zeroDivisor (part = 0)
  return length % part

/-- How many parts a length consists of. -/
def quotient (rigour : Rigour) (length part : LengthWord width) :
    Except Mishap (LengthWord width) := do
  rigour.heed .zeroDivisor (part = 0)
  rigour.heed .remainderDropped (length % part ≠ 0)
  return length / part

/-- The low 32 bits of a length. -/
def toCount (rigour : Rigour) (length : LengthWord width) : Except Mishap UInt32 := do
  let count : UInt32 := .ofBitVec (length.setWidth 32)
  rigour.heed .bitsCut (ofCount width count ≠ length)
  return count

end LengthWord

/-- A bus program that a mishap may end. -/
abbrev MachineProgram (α : Type) : Type := ExceptT Mishap Bus α

namespace Machine

/-- Runs a program on a memory with the bus lock held; a mishap leaves the lock as it is. -/
def holdingBus {α μ : Type} (config : DeviceConfig) (memory : μ)
    (body : MachineProgram (Except DeviceError α × μ)) : MachineProgram (Except DeviceError α × μ) := do
  match ← (acquire config.lockPolicy).run with
  | .error cause => return (.error cause, memory)
  | .ok () =>
    let result ← body
    Bus.release
    return result

/-- The front of a buffer. -/
def front {width : LengthWidth} (rigour : Rigour) (buffer : Bytes) (length : LengthWord width) :
    Except Mishap Bytes := do
  rigour.heed .outOfRange (LengthWord.ofBytes width buffer < length)
  return buffer.take length.toNat

/-- What a buffer holds behind its front. -/
def behind {width : LengthWidth} (rigour : Rigour) (buffer : Bytes) (length : LengthWord width) :
    Except Mishap Bytes := do
  rigour.heed .outOfRange (LengthWord.ofBytes width buffer < length)
  return buffer.drop length.toNat

/-- The address of a command, which has seventeen bits of room in the argument. -/
def addressField (rigour : Rigour) (address : UInt32) : Except Mishap UInt32 := do
  rigour.heed .bitsCut (address > maxAddress)
  return address

end Machine

end CardLink
