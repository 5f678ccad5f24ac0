import CardLink.Flags

/-! Argument words of the two I/O commands: one register access, and one extended transfer. -/

namespace CardLink

/-- The highest I/O function of a card. -/
def maxFunction : UInt8 := 7

/-- The highest register address, seventeen bits wide. -/
def maxAddress : UInt32 := 0x1FFFF

/-- The bits of the count field. -/
def countMask : UInt32 := 0x1FF

/-- The longest transfer in byte mode, whose count field reads zero. -/
def maxByteCount : UInt32 := 512

/-- The most blocks of one command in block mode. -/
def maxBlockCount : UInt32 := 511

/-- The largest block size that a function can be set to. -/
def maxBlockSize : UInt32 := 2048

/-- The place of the function number. -/
def functionShift : UInt32 := 28

/-- The place of the register address. -/
def addressShift : UInt32 := 9

/-- The direction bit, set for a write. -/
def writeBit : UInt32 := 0x80000000

/-- The bit of a register write that asks for the value after the write. -/
def readAfterWriteBit : UInt32 := 0x08000000

/-- The bit of an extended transfer that counts in blocks. -/
def blockModeBit : UInt32 := 0x08000000

/-- The bit of an extended transfer that advances the register address with each byte. -/
def incrementBit : UInt32 := 0x04000000

/-- The function and the address at the places that both arguments share. -/
def targetField (function : UInt8) (address : UInt32) : UInt32 :=
  -- Each part is cut to its field, so it cannot reach its neighbour.
  ((function.toUInt32 &&& 7) <<< functionShift) ||| ((address &&& maxAddress) <<< addressShift)

/-- An access to one register. -/
structure DirectAccess where
  /-- The register is written. -/
  write : Bool
  /-- The I/O function that owns the register. -/
  function : UInt8
  /-- The address of the register. -/
  address : UInt32
  /-- A write is answered with the value of the register afterwards. -/
  readAfterWrite : Bool
  /-- The value to write. -/
  data : UInt8
  deriving DecidableEq

/-- The argument word of a register access; reading back is encoded for a write only. -/
def DirectAccess.encode (access : DirectAccess) : UInt32 :=
  let base := targetField access.function access.address ||| access.data.toUInt32
  if access.write then
    base ||| writeBit ||| (if access.readAfterWrite then readAfterWriteBit else 0)
  else base

/-- How an extended transfer counts and where its bytes go. -/
structure ExtendedMode where
  /-- The mode bits, at their places in the argument. -/
  bits : UInt32
  deriving DecidableEq

/-- The names of the mode bits. -/
def ExtendedMode.layout : FlagLayout where
  title := "IoRwFlags"
  named := [("BLOCK_MODE", blockModeBit), ("INCREMENT_ADDRESS", incrementBit)]

/-- The mode of a transfer of so many blocks: one block alone goes in byte mode. -/
def ExtendedMode.ofTransfer (blockCount : UInt32) (incrementAddress : Bool) : ExtendedMode where
  bits := (if blockCount > 1 then blockModeBit else 0) ||| (if incrementAddress then incrementBit else 0)

/-- The count field holds blocks. -/
def ExtendedMode.blockMode (mode : ExtendedMode) : Bool :=
  containsBits mode.bits blockModeBit

/-- The register address advances with each byte. -/
def ExtendedMode.increments (mode : ExtendedMode) : Bool :=
  containsBits mode.bits incrementBit

/-- An extended transfer as its argument states it. -/
structure ExtendedAccess where
  /-- Bytes go to the card. -/
  write : Bool
  /-- The I/O function that owns the registers. -/
  function : UInt8
  /-- The address of the first register. -/
  address : UInt32
  /-- The mode bits. -/
  mode : ExtendedMode
  /-- The number of blocks or of bytes. -/
  count : UInt32
  deriving DecidableEq

/-- The argument word of an extended transfer; bits outside the two modes and the count field are dropped. -/
def ExtendedAccess.encode (access : ExtendedAccess) : UInt32 :=
  let base := targetField access.function access.address
    ||| (access.mode.bits &&& (blockModeBit ||| incrementBit)) ||| (access.count &&& countMask)
  if access.write then base ||| writeBit else base

end CardLink
