/-!
# Arithmetic that reports a flag

Sums, differences and shifts of bytes, each with the flag that the machine records: the
carry of a sum, the absence of a borrow in a difference, the bit shifted out of a shift.
-/
namespace Chip8

/-- A byte and the flag that goes with it. -/
structure Flagged where
  /-- The result modulo 256. -/
  value : UInt8
  /-- What the result does not tell. -/
  flag : Bool
deriving DecidableEq, Repr

namespace Arithmetic

/-- The flag of a sum is its carry. -/
def sum (a b : UInt8) : Flagged := ⟨a + b, 256 ≤ a.toNat + b.toNat⟩

/-- The flag of a difference tells that nothing was borrowed. -/
def difference (a b : UInt8) : Flagged := ⟨a - b, b ≤ a⟩

/-- The flag of a halving is the bit lost. -/
def halve (a : UInt8) : Flagged := ⟨a >>> 1, a &&& 1 == 1⟩

/-- The flag of a doubling is the bit lost. -/
def double (a : UInt8) : Flagged := ⟨a <<< 1, (a >>> 7) &&& 1 == 1⟩

/-- Result and carry together are the sum. -/
theorem toNat_sum (a b : UInt8) :
    (sum a b).value.toNat + 256 * (sum a b).flag.toNat = a.toNat + b.toNat := by
  have ha := a.toNat_lt
  have hb := b.toNat_lt
  by_cases carried : 256 ≤ a.toNat + b.toNat
  · simp only [sum, UInt8.toNat_add, carried, decide_true, Bool.toNat_true]
    omega
  · simp only [sum, UInt8.toNat_add, carried, decide_false, Bool.toNat_false]
    omega

/-- The decimal digits of a byte: hundreds, tens and ones. -/
def decimalDigits (value : UInt8) : List UInt8 := [value / 100, value / 10 % 10, value % 10]

end Arithmetic

end Chip8
