import CardLink.Command.Argument
import CardLink.Proofs.Response

/-!
The argument of an I/O command is its fields side by side, which a card reads back: five fields for a
register access, and six for an extended transfer.
-/

namespace CardLink

/-- One bit of a word, by division. -/
theorem bitSet_eq (word : UInt32) (position : Nat) :
    bitSet word position = decide (word.toNat / 2 ^ position % 2 = 1) :=
  Nat.testBit_eq_decide_div_mod_eq

/-- One field of a word, by division. -/
theorem bitField_eq (word : UInt32) (low width : Nat) :
    bitField word low width = word.toNat / 2 ^ low % 2 ^ width := by
  rw [bitField, Nat.shiftRight_eq_div_pow]
  rfl

/-- A truth value is read back from its bit. -/
private theorem decide_toNat (value : Bool) : decide (value.toNat = 1) = value := by
  cases value <;> rfl

/-- The argument of an extended transfer as a card reads it. -/
structure ExtendedFields where
  /-- Bytes go to the card. -/
  write : Bool
  /-- The number of the I/O function. -/
  function : Nat
  /-- The count field holds blocks. -/
  blockMode : Bool
  /-- The register address advances with each byte. -/
  increments : Bool
  /-- The address of the first register. -/
  address : Nat
  /-- The count field. -/
  count : Nat
  deriving DecidableEq

namespace ExtendedFields

/-- The fields at their places in one word. -/
def word (fields : ExtendedFields) : UInt32 :=
  .ofNat (fields.write.toNat * 2 ^ 31 + fields.function * 2 ^ 28 + fields.blockMode.toNat * 2 ^ 27
    + fields.increments.toNat * 2 ^ 26 + fields.address * 2 ^ 9 + fields.count)

/-- Reads the fields of a word. -/
def decode (word : UInt32) : ExtendedFields where
  write := bitSet word 31
  function := bitField word 28 3
  blockMode := bitSet word 27
  increments := bitSet word 26
  address := bitField word 9 17
  count := bitField word 0 9

/-- Each numeric field fits its place. -/
structure Fit (fields : ExtendedFields) : Prop where
  /-- Three bits hold the function. -/
  function_lt : fields.function < 2 ^ 3
  /-- Seventeen bits hold the address. -/
  address_lt : fields.address < 2 ^ 17
  /-- Nine bits hold the count. -/
  count_lt : fields.count < 2 ^ 9

/-- Fields that fit their places lie side by side. -/
theorem toNat_word {fields : ExtendedFields} (fit : fields.Fit) :
    fields.word.toNat = fields.write.toNat * 2 ^ 31 + fields.function * 2 ^ 28
      + fields.blockMode.toNat * 2 ^ 27 + fields.increments.toNat * 2 ^ 26
      + fields.address * 2 ^ 9 + fields.count := by
  -- The widths of the fields add up to the width of the word.
  have ⟨function_lt, address_lt, count_lt⟩ := fit
  have write_le := Bool.toNat_le fields.write
  have block_le := Bool.toNat_le fields.blockMode
  have increments_le := Bool.toNat_le fields.increments
  rw [word, UInt32.toNat_ofNat']
  omega

/-- Fields that fit their places are read back unchanged. -/
theorem decode_word {fields : ExtendedFields} (fit : fields.Fit) : decode fields.word = fields := by
  have ⟨function_lt, address_lt, count_lt⟩ := fit
  have write_le := Bool.toNat_le fields.write
  have block_le := Bool.toNat_le fields.blockMode
  have increments_le := Bool.toNat_le fields.increments
  -- Division drops the fields below a place, and the remainder those above it.
  have write_eq : fields.word.toNat / 2 ^ 31 % 2 = fields.write.toNat := by
    rw [toNat_word fit]
    omega
  have function_eq : fields.word.toNat / 2 ^ 28 % 2 ^ 3 = fields.function := by
    rw [toNat_word fit]
    omega
  have block_eq : fields.word.toNat / 2 ^ 27 % 2 = fields.blockMode.toNat := by
    rw [toNat_word fit]
    omega
  have increments_eq : fields.word.toNat / 2 ^ 26 % 2 = fields.increments.toNat := by
    rw [toNat_word fit]
    omega
  have address_eq : fields.word.toNat / 2 ^ 9 % 2 ^ 17 = fields.address := by
    rw [toNat_word fit]
    omega
  have count_eq : fields.word.toNat / 2 ^ 0 % 2 ^ 9 = fields.count := by
    rw [toNat_word fit]
    omega
  simp only [decode, bitSet_eq, bitField_eq, write_eq, function_eq, block_eq, increments_eq,
    address_eq, count_eq, decide_toNat]

end ExtendedFields

namespace ExtendedMode

/-- A request for several blocks goes in block mode. -/
@[simp] theorem blockMode_ofTransfer (blockCount : UInt32) (incrementAddress : Bool) :
    (ofTransfer blockCount incrementAddress).blockMode = decide (1 < blockCount.toNat) := by
  -- The increment flag is another bit, so it does not matter here.
  have several : (blockCount > 1) = (1 < blockCount.toNat) := rfl
  simp only [ofTransfer, blockMode, several]
  by_cases many : 1 < blockCount.toNat
  · cases incrementAddress <;> simp [many] <;> decide
  · cases incrementAddress <;> simp [many] <;> decide

/-- The address advances as the device is told. -/
@[simp] theorem increments_ofTransfer (blockCount : UInt32) (incrementAddress : Bool) :
    (ofTransfer blockCount incrementAddress).increments = incrementAddress := by
  simp only [ofTransfer, increments]
  split <;> cases incrementAddress <;> decide

end ExtendedMode

/-- A multiple of a power of two and a number below that power have no bit in common. -/
private theorem or_eq_add (high low width : Nat) (multiple : high % 2 ^ width = 0)
    (small : low < 2 ^ width) : high ||| low = high + low := by
  -- A multiple of the power has no bit below it, where the other number has all of its bits.
  have divides : 2 ^ width ∣ high := Nat.dvd_of_mod_eq_zero multiple
  have whole : high = 2 ^ width * (high / 2 ^ width) := (Nat.mul_div_cancel' divides).symm
  rw [whole]
  exact (Nat.two_pow_add_eq_or_of_lt small _).symm

/-- The function and the address at their places, each cut to its field. -/
private theorem toNat_targetField (function : UInt8) (address : UInt32) :
    (targetField function address).toNat =
      function.toNat % 2 ^ 3 * 2 ^ 28 ||| address.toNat % 2 ^ 17 * 2 ^ 9 := by
  -- A mask keeps the low bits of a field, and no bit is lost when they move to their place.
  have functionMask : function.toNat &&& 7 = function.toNat % 2 ^ 3 :=
    Nat.and_two_pow_sub_one_eq_mod function.toNat 3
  have addressMask : address.toNat &&& 0x1FFFF = address.toNat % 2 ^ 17 :=
    Nat.and_two_pow_sub_one_eq_mod address.toNat 17
  have functionPart : ((function.toUInt32 &&& 7) <<< functionShift).toNat =
      function.toNat % 2 ^ 3 * 2 ^ 28 := by
    rw [UInt32.toNat_shiftLeft, UInt32.toNat_and]
    simp only [UInt8.toNat_toUInt32, functionShift, UInt32.reduceToNat, functionMask,
      Nat.shiftLeft_eq, Nat.reduceMod]
    omega
  have addressPart : ((address &&& maxAddress) <<< addressShift).toNat =
      address.toNat % 2 ^ 17 * 2 ^ 9 := by
    rw [UInt32.toNat_shiftLeft, UInt32.toNat_and]
    simp only [maxAddress, addressShift, UInt32.reduceToNat, addressMask, Nat.shiftLeft_eq,
      Nat.reduceMod]
    omega
  rw [targetField, UInt32.toNat_or, functionPart, addressPart]

namespace ExtendedMode

/-- Block mode is bit 27. -/
theorem blockMode_eq (mode : ExtendedMode) : mode.blockMode = bitSet mode.bits 27 :=
  containsBits_two_pow mode.bits 27 (by decide)

/-- The advancing address is bit 26. -/
theorem increments_eq (mode : ExtendedMode) : mode.increments = bitSet mode.bits 26 :=
  containsBits_two_pow mode.bits 26 (by decide)

/-- The mode bits of an argument, as a number. -/
theorem toNat_bits_and (mode : ExtendedMode) :
    (mode.bits &&& (blockModeBit ||| incrementBit)).toNat =
      mode.blockMode.toNat * 2 ^ 27 + mode.increments.toNat * 2 ^ 26 := by
  -- Each of the two flags contributes its own bit, and nothing else passes the mask.
  have block : mode.blockMode = mode.bits.toNat.testBit 27 := mode.blockMode_eq
  have increment : mode.increments = mode.bits.toNat.testBit 26 := mode.increments_eq
  have blockShared : mode.bits.toNat &&& 2 ^ 27 = (mode.bits.toNat.testBit 27).toNat * 2 ^ 27 :=
    Nat.and_two_pow _ _
  have incrementShared : mode.bits.toNat &&& 2 ^ 26 = (mode.bits.toNat.testBit 26).toNat * 2 ^ 26 :=
    Nat.and_two_pow _ _
  have masks : (blockModeBit ||| incrementBit).toNat = 2 ^ 27 ||| 2 ^ 26 := rfl
  have increment_le := Bool.toNat_le (mode.bits.toNat.testBit 26)
  rw [UInt32.toNat_and, masks, Nat.and_or_distrib_left, blockShared, incrementShared, block, increment]
  exact or_eq_add _ _ 27 (by omega) (by omega)

end ExtendedMode

namespace ExtendedAccess

/-- The fields of an access, each cut to its place. -/
def fields (access : ExtendedAccess) : ExtendedFields where
  write := access.write
  function := access.function.toNat % 2 ^ 3
  blockMode := access.mode.blockMode
  increments := access.mode.increments
  address := access.address.toNat % 2 ^ 17
  count := access.count.toNat % 2 ^ 9

/-- Cut to its place, each field fits. -/
theorem fields_fit (access : ExtendedAccess) : access.fields.Fit where
  function_lt := Nat.mod_lt _ (by decide)
  address_lt := Nat.mod_lt _ (by decide)
  count_lt := Nat.mod_lt _ (by decide)

/-- The argument word of an access is its fields side by side. -/
theorem encode_eq_word (access : ExtendedAccess) : access.encode = access.fields.word := by
  have count : (access.count &&& countMask).toNat = access.count.toNat % 2 ^ 9 := by
    rw [UInt32.toNat_and]
    exact Nat.and_two_pow_sub_one_eq_mod access.count.toNat 9
  have write_le := Bool.toNat_le access.write
  have block_le := Bool.toNat_le access.mode.blockMode
  have increments_le := Bool.toNat_le access.mode.increments
  -- From the highest field down, each sum is a multiple of a power that the next field stays below.
  let function := access.function.toNat % 2 ^ 3 * 2 ^ 28
  let mode := access.mode.blockMode.toNat * 2 ^ 27 + access.mode.increments.toNat * 2 ^ 26
  let address := access.address.toNat % 2 ^ 17 * 2 ^ 9
  have modeAdded : function ||| mode = function + mode := or_eq_add _ _ 28 (by omega) (by omega)
  have addressAdded : function + mode ||| address = function + mode + address :=
    or_eq_add _ _ 26 (by omega) (by omega)
  have countAdded : function + mode + address ||| access.count.toNat % 2 ^ 9 =
      function + mode + address + access.count.toNat % 2 ^ 9 := or_eq_add _ _ 9 (by omega) (by omega)
  -- Function, mode bits, address and count lie side by side below the direction.
  have base : (targetField access.function access.address
      ||| (access.mode.bits &&& (blockModeBit ||| incrementBit)) ||| (access.count &&& countMask)).toNat =
      function + mode + address + access.count.toNat % 2 ^ 9 := by
    rw [UInt32.toNat_or, UInt32.toNat_or, toNat_targetField, access.mode.toNat_bits_and, count,
      Nat.or_right_comm function, modeAdded, addressAdded, countAdded]
  -- The direction is the top bit, above everything else.
  have direction : access.encode.toNat = access.write.toNat * 2 ^ 31 + (targetField access.function
      access.address ||| (access.mode.bits &&& (blockModeBit ||| incrementBit))
      ||| (access.count &&& countMask)).toNat := by
    cases written : access.write with
    | false => simp [encode, written]
    | true =>
      have top : writeBit.toNat = 1 * 2 ^ 31 := rfl
      rw [encode, written, if_pos rfl, UInt32.toNat_or, top, Nat.or_comm]
      exact or_eq_add _ _ 31 (by omega) (by omega)
  apply UInt32.toNat_inj.mp
  rw [direction, base, ExtendedFields.toNat_word access.fields_fit]
  simp only [fields]
  omega

/-- A card reads back every field of an access. -/
theorem decode_encode (access : ExtendedAccess) : .decode access.encode = access.fields := by
  rw [encode_eq_word, ExtendedFields.decode_word access.fields_fit]

end ExtendedAccess

/-- The argument of a register access as a card reads it. -/
structure DirectFields where
  /-- The register is written. -/
  write : Bool
  /-- The number of the I/O function. -/
  function : Nat
  /-- A write is answered with the value of the register afterwards. -/
  readAfterWrite : Bool
  /-- The address of the register. -/
  address : Nat
  /-- The value to write. -/
  data : Nat
  deriving DecidableEq

namespace DirectFields

/-- The fields at their places in one word. -/
def word (fields : DirectFields) : UInt32 :=
  .ofNat (fields.write.toNat * 2 ^ 31 + fields.function * 2 ^ 28
    + fields.readAfterWrite.toNat * 2 ^ 27 + fields.address * 2 ^ 9 + fields.data)

/-- Reads the fields of a word. -/
def decode (word : UInt32) : DirectFields where
  write := bitSet word 31
  function := bitField word 28 3
  readAfterWrite := bitSet word 27
  address := bitField word 9 17
  data := bitField word 0 8

/-- Each numeric field fits its place. -/
structure Fit (fields : DirectFields) : Prop where
  /-- Three bits hold the function. -/
  function_lt : fields.function < 2 ^ 3
  /-- Seventeen bits hold the address. -/
  address_lt : fields.address < 2 ^ 17
  /-- Eight bits hold the value. -/
  data_lt : fields.data < 2 ^ 8

/-- Fields that fit their places lie side by side. -/
theorem toNat_word {fields : DirectFields} (fit : fields.Fit) :
    fields.word.toNat = fields.write.toNat * 2 ^ 31 + fields.function * 2 ^ 28
      + fields.readAfterWrite.toNat * 2 ^ 27 + fields.address * 2 ^ 9 + fields.data := by
  -- The widths of the fields add up to less than the width of the word.
  have ⟨function_lt, address_lt, data_lt⟩ := fit
  have write_le := Bool.toNat_le fields.write
  have read_le := Bool.toNat_le fields.readAfterWrite
  rw [word, UInt32.toNat_ofNat']
  omega

/-- Fields that fit their places are read back unchanged. -/
theorem decode_word {fields : DirectFields} (fit : fields.Fit) : decode fields.word = fields := by
  have ⟨function_lt, address_lt, data_lt⟩ := fit
  have write_le := Bool.toNat_le fields.write
  have read_le := Bool.toNat_le fields.readAfterWrite
  -- Division drops the fields below a place, and the remainder those above it.
  have write_eq : fields.word.toNat / 2 ^ 31 % 2 = fields.write.toNat := by
    rw [toNat_word fit]
    omega
  have function_eq : fields.word.toNat / 2 ^ 28 % 2 ^ 3 = fields.function := by
    rw [toNat_word fit]
    omega
  have read_eq : fields.word.toNat / 2 ^ 27 % 2 = fields.readAfterWrite.toNat := by
    rw [toNat_word fit]
    omega
  have address_eq : fields.word.toNat / 2 ^ 9 % 2 ^ 17 = fields.address := by
    rw [toNat_word fit]
    omega
  have data_eq : fields.word.toNat / 2 ^ 0 % 2 ^ 8 = fields.data := by
    rw [toNat_word fit]
    omega
  simp only [decode, bitSet_eq, bitField_eq, write_eq, function_eq, read_eq, address_eq, data_eq,
    decide_toNat]

end DirectFields

namespace DirectAccess

/-- The fields of an access, each cut to its place; only a write is answered with its value. -/
def fields (access : DirectAccess) : DirectFields where
  write := access.write
  function := access.function.toNat % 2 ^ 3
  readAfterWrite := access.write && access.readAfterWrite
  address := access.address.toNat % 2 ^ 17
  data := access.data.toNat

/-- Cut to its place, each field fits. -/
theorem fields_fit (access : DirectAccess) : access.fields.Fit where
  function_lt := Nat.mod_lt _ (by decide)
  address_lt := Nat.mod_lt _ (by decide)
  data_lt := access.data.toNat_lt

/-- The argument word of an access is its fields side by side. -/
theorem encode_eq_word (access : DirectAccess) : access.encode = access.fields.word := by
  have data_lt : access.data.toNat < 2 ^ 8 := access.data.toNat_lt
  have write_le := Bool.toNat_le access.write
  have read_le := Bool.toNat_le (access.write && access.readAfterWrite)
  -- From the highest field down, each sum is a multiple of a power that the next field stays below.
  let function := access.function.toNat % 2 ^ 3 * 2 ^ 28
  let read := (access.write && access.readAfterWrite).toNat * 2 ^ 27
  let address := access.address.toNat % 2 ^ 17 * 2 ^ 9
  have readAdded : function ||| read = function + read := or_eq_add _ _ 28 (by omega) (by omega)
  have addressAdded : function + read ||| address = function + read + address :=
    or_eq_add _ _ 27 (by omega) (by omega)
  have dataAdded : function + read + address ||| access.data.toNat =
      function + read + address + access.data.toNat := or_eq_add _ _ 9 (by omega) (by omega)
  have base : (targetField access.function access.address ||| access.data.toUInt32).toNat ||| read =
      function + read + address + access.data.toNat := by
    rw [UInt32.toNat_or, toNat_targetField, UInt8.toNat_toUInt32, Nat.or_right_comm,
      Nat.or_right_comm function, readAdded, addressAdded, dataAdded]
  -- The direction is the top bit, and goes with the bit below the function.
  have joined : access.encode.toNat = access.write.toNat * 2 ^ 31
      ||| ((targetField access.function access.address ||| access.data.toUInt32).toNat ||| read) := by
    cases written : access.write with
    | false => simp [encode, written, read]
    | true =>
      have top : writeBit.toNat = 1 * 2 ^ 31 := rfl
      rw [encode, written, if_pos rfl, UInt32.toNat_or, UInt32.toNat_or, top, Nat.or_right_comm,
        Nat.or_comm _ (1 * 2 ^ 31)]
      cases asked : access.readAfterWrite <;> simp [read, written, asked, readAfterWriteBit]
  have topAdded : access.write.toNat * 2 ^ 31 ||| (function + read + address + access.data.toNat) =
      access.write.toNat * 2 ^ 31 + (function + read + address + access.data.toNat) :=
    or_eq_add _ _ 31 (by omega) (by omega)
  apply UInt32.toNat_inj.mp
  rw [joined, base, topAdded, DirectFields.toNat_word access.fields_fit]
  simp only [fields]
  omega

/-- A card reads back every field of an access. -/
theorem decode_encode (access : DirectAccess) : .decode access.encode = access.fields := by
  rw [encode_eq_word, DirectFields.decode_word access.fields_fit]

end DirectAccess

end CardLink
