import CardLink.Proofs.Command.Argument

/-!
The argument words of the two I/O commands are faithful: the fields that a card reads are those of the
access, reading a word and encoding what was read gives the word again, and two accesses share
a word exactly if they share the fields.
-/

namespace CardLink

/-- A number that fits three bits is the low part of its byte. -/
private theorem function_ofNat {function : Nat} (fits : function < 2 ^ 3) :
    (UInt8.ofNat function).toNat % 2 ^ 3 = function := by
  rw [UInt8.toNat_ofNat']
  omega

/-- A number that fits seventeen bits is the low part of its word. -/
private theorem address_ofNat {address : Nat} (fits : address < 2 ^ 17) :
    (UInt32.ofNat address).toNat % 2 ^ 17 = address := by
  rw [UInt32.toNat_ofNat']
  omega

namespace DirectFields

/-- The access that a card takes the fields for. -/
def access (fields : DirectFields) : DirectAccess where
  write := fields.write
  function := .ofNat fields.function
  address := .ofNat fields.address
  readAfterWrite := fields.readAfterWrite
  data := .ofNat fields.data

/-- Fields that fit are the fields of the access they stand for, if only a write is read back. -/
theorem fields_access {fields : DirectFields} (fit : fields.Fit)
    (written : fields.readAfterWrite = true → fields.write = true) : fields.access.fields = fields := by
  have ⟨function_lt, address_lt, data_lt⟩ := fit
  have data_eq : (UInt8.ofNat fields.data).toNat = fields.data := by
    rw [UInt8.toNat_ofNat']
    omega
  have read_eq : (fields.write && fields.readAfterWrite) = fields.readAfterWrite := by
    cases read : fields.readAfterWrite with
    | false => exact Bool.and_false _
    | true => rw [written read, Bool.and_true]
  simp only [DirectAccess.fields, access, function_ofNat function_lt, address_ofNat address_lt, data_eq,
    read_eq]

/-- The two bits between the fields stay clear. -/
theorem gaps_word {fields : DirectFields} (fit : fields.Fit) :
    bitSet fields.word 26 = false ∧ bitSet fields.word 8 = false := by
  have ⟨function_lt, address_lt, data_lt⟩ := fit
  have write_le := Bool.toNat_le fields.write
  have read_le := Bool.toNat_le fields.readAfterWrite
  have above : fields.word.toNat / 2 ^ 26 % 2 = 0 := by
    rw [toNat_word fit]
    omega
  have below : fields.word.toNat / 2 ^ 8 % 2 = 0 := by
    rw [toNat_word fit]
    omega
  rw [bitSet_eq, bitSet_eq, above, below]
  exact ⟨rfl, rfl⟩

end DirectFields

namespace ExtendedMode

/-- The mode with the given flags. -/
def ofFlags (blockMode increments : Bool) : ExtendedMode where
  bits := (if blockMode then blockModeBit else 0) ||| (if increments then incrementBit else 0)

@[simp] theorem blockMode_ofFlags (blockMode increments : Bool) :
    (ofFlags blockMode increments).blockMode = blockMode := by
  cases blockMode <;> cases increments <;> decide

@[simp] theorem increments_ofFlags (blockMode increments : Bool) :
    (ofFlags blockMode increments).increments = increments := by
  cases blockMode <;> cases increments <;> decide

/-- The flags of a mode are its bits at the two places, and no others. -/
theorem ofFlags_eq (mode : ExtendedMode) :
    ofFlags mode.blockMode mode.increments = ⟨mode.bits &&& (blockModeBit ||| incrementBit)⟩ := by
  have flags : (ofFlags mode.blockMode mode.increments).bits.toNat =
      mode.blockMode.toNat * 2 ^ 27 + mode.increments.toNat * 2 ^ 26 := by
    cases mode.blockMode <;> cases mode.increments <;> decide
  rw [← mode.toNat_bits_and] at flags
  exact congrArg ExtendedMode.mk (UInt32.toNat_inj.mp flags)

/-- The mode of a transfer has no other bits. -/
theorem bits_ofTransfer (blockCount : UInt32) (incrementAddress : Bool) :
    (ofTransfer blockCount incrementAddress).bits &&& (blockModeBit ||| incrementBit) =
      (ofTransfer blockCount incrementAddress).bits := by
  rw [ofTransfer]
  split <;> cases incrementAddress <;> decide

end ExtendedMode

namespace ExtendedFields

/-- The access that a card takes the fields for. -/
def access (fields : ExtendedFields) : ExtendedAccess where
  write := fields.write
  function := .ofNat fields.function
  address := .ofNat fields.address
  mode := .ofFlags fields.blockMode fields.increments
  count := .ofNat fields.count

/-- Fields that fit are the fields of the access they stand for. -/
theorem fields_access {fields : ExtendedFields} (fit : fields.Fit) : fields.access.fields = fields := by
  have ⟨function_lt, address_lt, count_lt⟩ := fit
  have count_eq : (UInt32.ofNat fields.count).toNat % 2 ^ 9 = fields.count := by
    rw [UInt32.toNat_ofNat']
    omega
  simp only [ExtendedAccess.fields, access, function_ofNat function_lt, address_ofNat address_lt,
    count_eq, ExtendedMode.blockMode_ofFlags, ExtendedMode.increments_ofFlags]

/-- Whatever word is read, each numeric field fits its place. -/
theorem fit_decode (word : UInt32) : (decode word).Fit where
  function_lt := Nat.mod_lt _ (by decide)
  address_lt := Nat.mod_lt _ (by decide)
  count_lt := Nat.mod_lt _ (by decide)

/-- The fields cover the whole word. -/
theorem word_decode (word : UInt32) : (decode word).word = word := by
  -- Each bit of the word belongs to exactly one field.
  have bit (position : Nat) : (bitSet word position).toNat = word.toNat / 2 ^ position % 2 := by
    rw [bitSet_eq]
    rcases Nat.mod_two_eq_zero_or_one (word.toNat / 2 ^ position) with clear | set <;> simp [*]
  have word_lt : word.toNat < 2 ^ 32 := word.toNat_lt
  apply UInt32.toNat_inj.mp
  rw [toNat_word (fit_decode word)]
  simp only [decode, bit, bitField_eq]
  omega

/-- The number of blocks or of bytes that the count field stands for; in byte mode, zero means 512. -/
def units (fields : ExtendedFields) : Nat :=
  if fields.blockMode then fields.count
  else if fields.count = 0 then 512
  else fields.count

end ExtendedFields

namespace DirectAccess

/-- Two accesses have one word exactly if their fields agree. -/
theorem encode_eq_iff (first second : DirectAccess) :
    first.encode = second.encode ↔ first.fields = second.fields := by
  constructor
  · intro same
    rw [← decode_encode, ← decode_encode, same]
  · intro same
    rw [encode_eq_word, encode_eq_word, same]

/-- Encoding what was read of a word gives the word again. -/
theorem encode_access (access : DirectAccess) :
    (DirectFields.decode access.encode).access.encode = access.encode := by
  have written : access.fields.readAfterWrite = true → access.fields.write = true :=
    fun read => (Bool.and_eq_true_iff.mp read).1
  rw [decode_encode, encode_eq_iff]
  exact DirectFields.fields_access access.fields_fit written

end DirectAccess

namespace ExtendedAccess

/-- Two accesses have one word exactly if their fields agree. -/
theorem encode_eq_iff (first second : ExtendedAccess) :
    first.encode = second.encode ↔ first.fields = second.fields := by
  constructor
  · intro same
    rw [← decode_encode, ← decode_encode, same]
  · intro same
    rw [encode_eq_word, encode_eq_word, same]

/-- Encoding what was read of a word gives the word again, whatever the word. -/
theorem encode_access (word : UInt32) : (ExtendedFields.decode word).access.encode = word := by
  rw [encode_eq_word, ExtendedFields.fields_access (ExtendedFields.fit_decode word),
    ExtendedFields.word_decode]

/-- What a request for an extended transfer keeps to. -/
structure Valid (access : ExtendedAccess) : Prop where
  /-- The function is one of eight. -/
  function_le : access.function.toNat ≤ 7
  /-- The address fits its field. -/
  address_le : access.address.toNat ≤ 0x1FFFF
  /-- Something is moved. -/
  count_pos : 1 ≤ access.count.toNat
  /-- No more is moved than one command can say. -/
  count_le : access.count.toNat ≤ if access.mode.blockMode then 511 else 512

/-- The access that a card reads off a word, with a count of zero bytes as 512. -/
def ofWord (word : UInt32) : ExtendedAccess :=
  let fields := ExtendedFields.decode word
  { fields.access with count := .ofNat fields.units }

/-- The access without mode bits that have no meaning. -/
def meant (access : ExtendedAccess) : ExtendedAccess :=
  { access with mode := ⟨access.mode.bits &&& (blockModeBit ||| incrementBit)⟩ }

/-- A card reads a valid access as it was meant. -/
theorem ofWord_encode {access : ExtendedAccess} (valid : access.Valid) :
    ofWord access.encode = access.meant := by
  have ⟨function_le, address_le, count_pos, count_le⟩ := valid
  have function_eq : UInt8.ofNat (access.function.toNat % 2 ^ 3) = access.function := by
    rw [Nat.mod_eq_of_lt (by omega), UInt8.ofNat_toNat]
  have address_eq : UInt32.ofNat (access.address.toNat % 2 ^ 17) = access.address := by
    rw [Nat.mod_eq_of_lt (by omega), UInt32.ofNat_toNat]
  have units_eq : access.fields.units = access.count.toNat := by
    -- Only 512 bytes leave the count field at zero.
    change (if access.mode.blockMode then access.count.toNat % 2 ^ 9
      else if access.count.toNat % 2 ^ 9 = 0 then 512 else access.count.toNat % 2 ^ 9) = _
    by_cases mode : access.mode.blockMode = true
    · rw [if_pos mode] at count_le ⊢
      exact Nat.mod_eq_of_lt (by omega)
    · rw [if_neg mode] at count_le ⊢
      by_cases most : access.count.toNat = 512
      · rw [most]
        rfl
      · rw [Nat.mod_eq_of_lt (by omega), if_neg (by omega)]
  simp only [ofWord, decode_encode, units_eq, UInt32.ofNat_toNat, ExtendedFields.access, meant]
  simp only [fields, function_eq, address_eq, ExtendedMode.ofFlags_eq]

/-- Mode bits without a meaning do not get into the word. -/
theorem encode_meant (access : ExtendedAccess) : access.meant.encode = access.encode := by
  simp only [encode, meant, UInt32.and_assoc, UInt32.and_self]

/-- Valid accesses have one word exactly if they are meant alike. -/
theorem encode_eq_iff_meant {first second : ExtendedAccess} (valid : first.Valid)
    (other : second.Valid) : first.encode = second.encode ↔ first.meant = second.meant := by
  constructor
  · intro same
    rw [← ofWord_encode valid, ← ofWord_encode other, same]
  · intro same
    rw [← encode_meant first, same, encode_meant]

end ExtendedAccess

/--
Argument words are faithful.

A card reads the fields of the access off its word, each cut to its place, and encoding what was read
gives the word again; two accesses share a word exactly if their fields agree. An extended access that
a device may ask for is read off its word as it was meant, 512 bytes included, so no two of them that
differ in more than meaningless mode bits share a word; the modes that transfers use have none.
-/
theorem argument_words_faithful :
    (∀ access : DirectAccess,
      DirectFields.decode access.encode = {
          write := access.write
          function := access.function.toNat % 8
          readAfterWrite := access.write && access.readAfterWrite
          address := access.address.toNat % 2 ^ 17
          data := access.data.toNat }
        ∧ bitSet access.encode 26 = false ∧ bitSet access.encode 8 = false
        ∧ (DirectFields.decode access.encode).access.encode = access.encode)
    ∧ (∀ first second : DirectAccess,
      first.encode = second.encode ↔ first.fields = second.fields)
    ∧ (∀ access : ExtendedAccess,
      ExtendedFields.decode access.encode = {
          write := access.write
          function := access.function.toNat % 8
          blockMode := bitSet access.mode.bits 27
          increments := bitSet access.mode.bits 26
          address := access.address.toNat % 2 ^ 17
          count := access.count.toNat % 512 })
    ∧ (∀ word : UInt32, (ExtendedFields.decode word).access.encode = word)
    ∧ (∀ first second : ExtendedAccess,
      first.encode = second.encode ↔ first.fields = second.fields)
    ∧ (∀ access : ExtendedAccess, access.Valid →
      ExtendedAccess.ofWord access.encode = access.meant)
    ∧ (∀ first second : ExtendedAccess, first.Valid → second.Valid →
      (first.encode = second.encode ↔ first.meant = second.meant))
    ∧ (∀ (access : ExtendedAccess) (blockCount : UInt32) (incrementAddress : Bool),
      access.mode = .ofTransfer blockCount incrementAddress → access.meant = access) := by
  refine ⟨?_, DirectAccess.encode_eq_iff, ?_, ExtendedAccess.encode_access,
    ExtendedAccess.encode_eq_iff, fun _ => ExtendedAccess.ofWord_encode,
    fun _ _ => ExtendedAccess.encode_eq_iff_meant, ?_⟩
  · intro access
    have ⟨above, below⟩ := DirectFields.gaps_word access.fields_fit
    rw [← access.encode_eq_word] at above below
    exact ⟨access.decode_encode, above, below, access.encode_access⟩
  · intro access
    rw [access.decode_encode, ← access.mode.blockMode_eq, ← access.mode.increments_eq]
    rfl
  · intro access blockCount incrementAddress transfer
    rw [ExtendedAccess.meant, transfer, ExtendedMode.bits_ofTransfer, ← transfer]

/-- The most bytes of one command, to the last register of the last function, leave the count at zero. -/
theorem argument_words_faithful_most_bytes :
    let access : ExtendedAccess := ⟨true, 7, 0x1FFFF, .ofTransfer 1 true, 512⟩
    access.Valid ∧ access.encode = 0xF7FFFE00 ∧ (ExtendedFields.decode access.encode).count = 0
      ∧ ExtendedAccess.ofWord access.encode = access := by
  intro access
  have valid : access.Valid := ⟨by decide, by decide, by decide, by decide⟩
  obtain ⟨-, -, fields, -, -, read, -, meant⟩ := argument_words_faithful
  refine ⟨valid, by decide, ?_, ?_⟩
  · rw [fields access]
    show (512 : UInt32).toNat % 512 = 0
    decide
  · rw [read access valid, meant access 1 true rfl]

end CardLink
