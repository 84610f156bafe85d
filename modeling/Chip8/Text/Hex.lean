/-!
# Upper-case hexadecimal

Addresses, words and register numbers are written with the digits 0 to 9 and A to F, the
most significant first, and padded with zeros to a least width. A number that needs more
digits than the width is written in full.
-/
namespace Chip8.Hex

/-- The digit of a value below sixteen. -/
def digit (value : Nat) : Char :=
  if value < 10 then Char.ofNat (0x30 + value) else Char.ofNat (0x41 + (value - 10))

/-- The digits of a number, without leading zeros. -/
def digits (value : Nat) : List Char :=
  if value < 16 then [digit value] else digits (value / 16) ++ [digit (value % 16)]
termination_by value
decreasing_by omega

/-- Zeros in front fill a number up to the least width. -/
def padded (width value : Nat) : String :=
  let written := digits value
  String.ofList (List.replicate (width - written.length) '0' ++ written)

end Chip8.Hex
