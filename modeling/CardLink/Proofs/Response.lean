import CardLink.Flags
import CardLink.Response
import Mathlib.Data.Nat.Bitwise

/-! Single flags and fault masks, and the bits that they are made of. -/

namespace CardLink

/-- A word and a flag at one place share exactly that bit. -/
theorem and_two_pow_toNat (bits : UInt32) (position : Nat) (within : position < 32) :
    (bits &&& .ofNat (2 ^ position)).toNat = (bits.toNat.testBit position).toNat * 2 ^ position := by
  have small : 2 ^ position < 2 ^ 32 := Nat.pow_lt_pow_right (by decide) within
  rw [UInt32.toNat_and, UInt32.toNat_ofNat', Nat.mod_eq_of_lt small, Nat.and_two_pow]

/-- A flag at one place is contained exactly if its bit is set. -/
theorem containsBits_two_pow (bits : UInt32) (position : Nat) (within : position < 32) :
    containsBits bits (.ofNat (2 ^ position)) = bitSet bits position := by
  -- Masked with the flag, a word is either the flag or zero.
  have small : 2 ^ position < 2 ^ 32 := Nat.pow_lt_pow_right (by decide) within
  have shared := and_two_pow_toNat bits position within
  rw [containsBits, bitSet, Bool.eq_iff_iff, beq_iff_eq, ← UInt32.toNat_inj, shared, UInt32.toNat_ofNat',
    Nat.mod_eq_of_lt small]
  have positive : 0 < 2 ^ position := Nat.two_pow_pos position
  cases bits.toNat.testBit position <;> simp [positive.ne]

/-- The bits of a mask under construction: those already there, and those still to be listed. -/
private theorem testBit_foldl_mask (positions : List Nat) (mask : UInt32)
    (within : ∀ position ∈ positions, position < 32) (bit : Nat) :
    (positions.foldl (fun mask position => mask ||| 1 <<< UInt32.ofNat position) mask).toNat.testBit bit =
      (mask.toNat.testBit bit || positions.contains bit) := by
  -- Each position adds one bit to whatever mask it meets.
  induction positions generalizing mask with
  | nil => simp
  | cons position rest ih =>
    have place : position < 32 := within position (by simp)
    have remaining : ∀ later ∈ rest, later < 32 := fun later member => within later (by simp [member])
    have shifted : (1 <<< UInt32.ofNat position : UInt32).toNat = 2 ^ position := by
      have small : 2 ^ position < 2 ^ 32 := Nat.pow_lt_pow_right (by decide) place
      rw [UInt32.toNat_shiftLeft, UInt32.toNat_ofNat', show position % 2 ^ 32 % 32 = position by omega,
        UInt32.toNat_one, Nat.one_shiftLeft, Nat.mod_eq_of_lt small]
    rw [List.foldl_cons, ih _ remaining, UInt32.toNat_or, Nat.testBit_or, shifted,
      Nat.testBit_two_pow, List.contains_cons, Bool.or_assoc]
    congr 2
    simp only [Bool.beq_eq_decide_eq, eq_comm]

/-- A mask has exactly the listed bits. -/
theorem testBit_maskOf {positions : List Nat} (within : ∀ position ∈ positions, position < 32)
    (bit : Nat) : (maskOf positions).toNat.testBit bit = positions.contains bit := by
  rw [maskOf, testBit_foldl_mask positions 0 within, UInt32.toNat_zero, Nat.zero_testBit,
    Bool.false_or]

/-- A word shares a bit with a mask exactly if one of the listed bits is set in it. -/
theorem and_maskOf_ne_zero {positions : List Nat} (within : ∀ position ∈ positions, position < 32)
    (word : UInt32) : (word &&& maskOf positions != 0) = positions.any (bitSet word) := by
  -- A word that is not zero has a bit that is set.
  rw [Bool.eq_iff_iff, bne_iff_ne, List.any_eq_true]
  constructor
  · -- Without a listed bit, every bit of the meet is clear.
    intro shared
    refine Classical.byContradiction fun clear => shared ?_
    apply UInt32.toNat_inj.mp
    apply Nat.eq_of_testBit_eq
    intro bit
    rw [UInt32.toNat_and, Nat.testBit_and, testBit_maskOf within, UInt32.toNat_zero, Nat.zero_testBit]
    cases set : word.toNat.testBit bit with
    | false => rfl
    | true =>
      have unlisted : bit ∉ positions := fun listed => clear ⟨bit, listed, set⟩
      simpa using unlisted
  · -- A listed bit of the word survives the meet.
    rintro ⟨bit, listed, set⟩ empty
    have kept : (word &&& maskOf positions).toNat.testBit bit = true := by
      rw [UInt32.toNat_and, Nat.testBit_and, testBit_maskOf within]
      simp [listed, show word.toNat.testBit bit = true from set]
    rw [empty, UInt32.toNat_zero, Nat.zero_testBit] at kept
    exact Bool.false_ne_true kept

/-- The bits of a card status that mark the command as failed. -/
def cardFaultBits : List Nat :=
  [31, 30, 29, 28, 27, 26, 25, 24, 23, 22, 21, 20, 19, 16, 15, 13, 7]

/-- The card flags a command as failed exactly if one of the fault bits is set. -/
theorem CardStatus.faulty_eq (status : CardStatus) :
    status.faulty = cardFaultBits.any (bitSet status.word) :=
  -- Each fault has its own position, and the list has all of them.
  and_maskOf_ne_zero (by decide) status.word

/-- The bits of an I/O status that mark the command as failed. -/
def ioFaultBits : List Nat := [15, 14, 11, 9, 8]

/-- The card flags an I/O command as failed exactly if one of the fault bits is set. -/
theorem IoStatus.faulty_eq (status : IoStatus) :
    status.faulty = ioFaultBits.any (bitSet status.word) :=
  -- The mask was built from these very positions.
  and_maskOf_ne_zero (by decide) status.word

end CardLink
