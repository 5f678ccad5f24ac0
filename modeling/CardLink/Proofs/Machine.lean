import CardLink.BusLaws
import CardLink.Machine
import Mathlib.Algebra.Ring.Nat

/-! Operations on length words are exact, under any rigour, as long as their results fit. -/

namespace CardLink

/-- The greatest length has all bits of its word set. -/
theorem LengthWidth.lt_two_pow_iff (width : LengthWidth) (length : Nat) :
    length < 2 ^ width.bits ↔ length ≤ width.greatest := by
  cases width <;> simp only [bits, greatest] <;> omega

/-- Both widths hold every number of 32 bits. -/
theorem LengthWidth.le_greatest (width : LengthWidth) {length : Nat} (fits : length < 2 ^ 32) :
    length ≤ width.greatest := by
  cases width <;> simp only [greatest] <;> omega

/-- What did not happen ends no program. -/
@[simp] theorem Rigour.heed_false (rigour : Rigour) (mishap : Mishap) :
    rigour.heed mishap false = .ok () := rfl

namespace LengthWord

variable {width : LengthWidth}

/-- A number that fits is held as it is. -/
theorem toNat_ofNat (width : LengthWidth) {length : Nat} (fits : length ≤ width.greatest) :
    (BitVec.ofNat width.bits length).toNat = length := by
  rw [BitVec.toNat_ofNat, Nat.mod_eq_of_lt ((width.lt_two_pow_iff length).mpr fits)]

/-- The length of a buffer that fits the machine is held as it is. -/
theorem toNat_ofBytes {bytes : Bytes} (fits : bytes.length ≤ width.greatest) :
    (ofBytes width bytes).toNat = bytes.length := toNat_ofNat width fits

/-- No length within a buffer is beyond its end. -/
theorem not_ofBytes_lt {bytes : Bytes} {length : LengthWord width}
    (fits : bytes.length ≤ width.greatest) (within : length.toNat ≤ bytes.length) :
    decide (ofBytes width bytes < length) = false := by
  rw [decide_eq_false_iff_not, BitVec.lt_def, toNat_ofBytes fits]
  exact Nat.not_lt.mpr within

/-- A number of 32 bits is held as it is. -/
@[simp] theorem toNat_ofCount (count : UInt32) : (ofCount width count).toNat = count.toNat := by
  have fits := (width.lt_two_pow_iff _).mpr (width.le_greatest count.toNat_lt)
  rw [ofCount, BitVec.toNat_setWidth, UInt32.toNat_toBitVec, Nat.mod_eq_of_lt fits]

/-- A word is zero exactly if its number is. -/
theorem eq_zero_iff (length : LengthWord width) : length = 0 ↔ length.toNat = 0 := by
  rw [← BitVec.toNat_inj]
  simp

/-- A word is one exactly if its number is. -/
theorem eq_one_iff (length : LengthWord width) : length = 1 ↔ length.toNat = 1 := by
  rw [← BitVec.toNat_inj]
  cases width <;> rfl

/-- A product exists exactly if the true product fits the word. -/
theorem product?_eq_none_iff (first second : LengthWord width) :
    product? first second = none ↔ width.greatest < first.toNat * second.toNat := by
  have fits := width.lt_two_pow_iff (first.toNat * second.toNat)
  rw [product?]
  simp only [BitVec.umulOverflow, decide_eq_true_eq, ite_eq_left_iff, reduceCtorEq, imp_false,
    Classical.not_not, ge_iff_le]
  omega

/-- Two million blocks of the greatest size are too many for 32 bits only. -/
example : product? (ofCount .bits32 0x200000) (ofCount .bits32 2048) = none
    ∧ product? (ofCount .bits64 0x200000) (ofCount .bits64 2048) = some 0x100000000 := by decide

/-- A product that exists is the true product. -/
theorem toNat_of_product? {first second length : LengthWord width}
    (found : product? first second = some length) : length.toNat = first.toNat * second.toNat := by
  have fits : first.toNat * second.toNat ≤ width.greatest := by
    have := product?_eq_none_iff first second
    rw [found] at this
    simpa using this
  have below := (width.lt_two_pow_iff _).mpr fits
  rw [product?] at found
  split at found
  · cases found
  · cases found
    exact BitVec.toNat_mul_of_lt below

variable (rigour : Rigour)

/-- A product of two numbers of 32 bits that fits its word is exact. -/
theorem product_ofCount {first second : UInt32}
    (fits : first.toNat * second.toNat ≤ width.greatest) :
    product rigour (ofCount width first) (ofCount width second) =
        .ok (ofCount width first * ofCount width second)
      ∧ (ofCount width first * ofCount width second).toNat = first.toNat * second.toNat := by
  -- As lengths, the two numbers are what they were before.
  have below : (ofCount width first).toNat * (ofCount width second).toNat < 2 ^ width.bits := by
    rw [toNat_ofCount, toNat_ofCount]
    exact (width.lt_two_pow_iff _).mpr fits
  have fine : (ofCount width first).umulOverflow (ofCount width second) = false :=
    decide_eq_false (Nat.not_le.mpr below)
  constructor
  · rw [product, fine]
    rfl
  · rw [BitVec.toNat_mul_of_lt below, toNat_ofCount, toNat_ofCount]

/-- A sum of two numbers that fits its word is exact. -/
theorem sum_ofNat {first second : Nat} (fits : first + second ≤ width.greatest) :
    sum rigour (.ofNat width.bits first) (.ofNat width.bits second) =
      .ok (.ofNat width.bits (first + second)) := by
  -- Neither number is greater than the sum, so both are held as they are.
  have total := toNat_ofNat width (Nat.le_trans (Nat.le_add_right first second) fits)
  have added := toNat_ofNat width (Nat.le_trans (Nat.le_add_left second first) fits)
  have fine : (BitVec.ofNat width.bits first).uaddOverflow (BitVec.ofNat width.bits second) = false := by
    rw [BitVec.uaddOverflow, decide_eq_false_iff_not, total, added, ge_iff_le, Nat.not_le]
    exact (width.lt_two_pow_iff _).mpr fits
  rw [sum, fine, BitVec.ofNat_add]
  rfl

/-- A difference that is not negative is exact. -/
theorem difference_ofNat {first second : Nat} (fits : first ≤ width.greatest) (le : second ≤ first) :
    difference rigour (.ofNat width.bits first) (.ofNat width.bits second) =
      .ok (.ofNat width.bits (first - second)) := by
  -- The second number and the difference are no greater than the first.
  have whole := toNat_ofNat width fits
  have part := toNat_ofNat width (Nat.le_trans le fits)
  have left := toNat_ofNat width (Nat.le_trans (Nat.sub_le first second) fits)
  have fine : (BitVec.ofNat width.bits first).usubOverflow (BitVec.ofNat width.bits second) = false := by
    rw [BitVec.usubOverflow, decide_eq_false_iff_not, whole, part]
    exact Nat.not_lt.mpr le
  have value : BitVec.ofNat width.bits first - BitVec.ofNat width.bits second =
      BitVec.ofNat width.bits (first - second) := by
    apply BitVec.eq_of_toNat_eq
    rw [BitVec.toNat_sub_of_le (by rw [BitVec.le_def, whole, part]; exact le), whole, part, left]
  rw [difference, fine, value]
  rfl

/-- The smaller one of two words is that of their numbers. -/
theorem least_ofNat {first second : Nat} (firstFits : first ≤ width.greatest)
    (secondFits : second ≤ width.greatest) :
    least (.ofNat width.bits first) (.ofNat width.bits second) =
      .ofNat width.bits (min first second) := by
  simp only [least, BitVec.le_def, toNat_ofNat width firstFits, toNat_ofNat width secondFits]
  split
  · rename_i le
    rw [Nat.min_eq_left le]
  · rename_i less
    rw [Nat.min_eq_right (Nat.le_of_not_le less)]

section Part

variable (length : LengthWord width) {part : UInt32} (positive : 1 ≤ part.toNat)

include positive

/-- A part of some length is not zero. -/
theorem ofCount_ne_zero : decide (ofCount width part = 0) = false := by
  rw [decide_eq_false_iff_not, eq_zero_iff, toNat_ofCount]
  omega

/-- A part of some length leaves a remainder. -/
theorem remainder_ofCount :
    remainder rigour length (ofCount width part) = .ok (length % ofCount width part)
      ∧ (length % ofCount width part).toNat = length.toNat % part.toNat := by
  constructor
  · rw [remainder, ofCount_ne_zero positive]
    rfl
  · rw [BitVec.toNat_umod, toNat_ofCount]

/-- A quotient without a remainder is exact. -/
theorem quotient_ofCount (whole : part.toNat ∣ length.toNat) :
    quotient rigour length (ofCount width part) = .ok (length / ofCount width part)
      ∧ (length / ofCount width part).toNat = length.toNat / part.toNat := by
  obtain ⟨-, left⟩ := remainder_ofCount rigour length positive
  have nothingLeft : decide (length % ofCount width part ≠ 0) = false := by
    rw [decide_eq_false_iff_not, Classical.not_not, eq_zero_iff, left]
    exact Nat.mod_eq_zero_of_dvd whole
  constructor
  · rw [quotient, ofCount_ne_zero positive, nothingLeft]
    rfl
  · rw [BitVec.toNat_udiv, toNat_ofCount]

end Part

/-- A length below the limit of 32 bits is exact as a count. -/
theorem toCount_of_lt {length : LengthWord width} (fits : length.toNat < 2 ^ 32) :
    toCount rigour length = .ok (.ofNat length.toNat) := by
  have count : UInt32.ofBitVec (length.setWidth 32) = .ofNat length.toNat := by
    apply UInt32.toNat_inj.mp
    rw [UInt32.toNat_ofBitVec, BitVec.toNat_setWidth, UInt32.toNat_ofNat']
  -- Made a length again, the count is the length that it was cut from.
  have back : ofCount width (.ofNat length.toNat) = length := by
    apply BitVec.eq_of_toNat_eq
    rw [toNat_ofCount, UInt32.toNat_ofNat', Nat.mod_eq_of_lt fits]
  have fine : decide (ofCount width (.ofNat length.toNat) ≠ length) = false := by simp [back]
  rw [toCount, count, fine]
  rfl

end LengthWord

namespace Machine

/-- A computation that a mishap did not end is the value that it ended with. -/
@[simp] theorem liftM_ok {α : Type} (value : α) :
    (liftM (Except.ok value : Except Mishap α) : MachineProgram α) = pure value := rfl

/-- A body that no mishap ends holds the bus as it does without a machine. -/
theorem holdingBus_eq {α μ : Type} (config : DeviceConfig) (memory : μ)
    (body : Bus (Except DeviceError α × μ)) :
    holdingBus config memory (liftM body) = liftM (CardLink.holdingBus config memory body) := by
  simp only [holdingBus, CardLink.holdingBus, liftM_bind]
  -- Taking the lock is the same program on both sides; only what follows differs.
  congr 1
  funext acquired
  cases acquired with
  | error cause => simp
  | ok done => simp [liftM_bind]

section Cut

variable {width : LengthWidth} (rigour : Rigour) {buffer : Bytes} {length : LengthWord width}
  (fits : buffer.length ≤ width.greatest) (within : length.toNat ≤ buffer.length)

include fits within

/-- A length within a buffer cuts it there. -/
theorem front_eq : front rigour buffer length = .ok (buffer.take length.toNat) := by
  rw [front, LengthWord.not_ofBytes_lt fits within]
  rfl

/-- Behind a length within a buffer is the rest of it. -/
theorem behind_eq : behind rigour buffer length = .ok (buffer.drop length.toNat) := by
  rw [behind, LengthWord.not_ofBytes_lt fits within]
  rfl

end Cut

/-- An address of seventeen bits has room in the argument. -/
theorem addressField_of_le (rigour : Rigour) {address : UInt32} (fits : address.toNat ≤ 0x1FFFF) :
    addressField rigour address = .ok address := by
  have fine : decide (address > maxAddress) = false := by
    rw [decide_eq_false_iff_not, gt_iff_lt, UInt32.lt_iff_toNat_lt]
    exact Nat.not_lt.mpr fits
  rw [addressField, fine]
  rfl

end Machine

end CardLink
