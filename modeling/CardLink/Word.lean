/-! Machine words that hold lengths and counts. -/

namespace CardLink

/-- The width of the machine words that hold lengths and counts. -/
inductive LengthWidth where
  | bits32
  | bits64
  deriving DecidableEq

/-- The greatest number that fits a length word. -/
def LengthWidth.greatest : LengthWidth → Nat
  | .bits32 => 0xFFFFFFFF
  | .bits64 => 0xFFFFFFFFFFFFFFFF

/-- The number of bits in a length word. -/
def LengthWidth.bits : LengthWidth → Nat
  | .bits32 => 32
  | .bits64 => 64

/-- A length or a count as the machine holds it. -/
abbrev LengthWord (width : LengthWidth) : Type := BitVec width.bits

end CardLink
