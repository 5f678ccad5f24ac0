/-! Numbers as messages show them: hexadecimal behind a marker, decimal padded to a column. -/

namespace CardLink

/-- The decimal digits of a number. -/
def decimal (value : Nat) : String :=
  -- Ten is the base; zero is written as a single digit.
  String.ofList (Nat.toDigits 10 value)

/-- A number in decimal, filled up on the left with blanks to at least the given width. -/
def decimalColumn (width value : Nat) : String :=
  -- A number wider than its column is never cut.
  String.ofList ((Nat.toDigits 10 value).leftpad width ' ')

/-- A number in lower-case hexadecimal behind `0x`, filled up with zeros to at least the given digits. -/
def hexadecimal (digits value : Nat) : String :=
  -- The marker is not counted among the digits.
  "0x" ++ String.ofList ((Nat.toDigits 16 value).leftpad digits '0')

end CardLink
