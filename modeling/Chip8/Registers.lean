/-!
# Registers

Sixteen byte registers, V0 to VF. A register is named by the low digit of a byte, so every
byte names a register. VF doubles as the flag of the instructions that report one.
-/
namespace Chip8

/-- The sixteen registers. -/
structure Registers where
  /-- Register VK is cell K. -/
  cells : Vector UInt8 16
deriving DecidableEq, Repr

namespace Registers

/-- The number of the register that doubles as the flag. -/
def flagRegister : UInt8 := 0xF

/-- All registers start at zero. -/
def zero : Registers := ⟨Vector.replicate 16 0⟩

/-- Masking a byte keeps its low digit. -/
theorem toNat_masked (register : UInt8) : (register &&& 0xF).toNat = register.toNat % 16 := by
  rw [UInt8.toNat_and]
  exact Nat.and_two_pow_sub_one_eq_mod register.toNat 4

/-- The low digit of a byte is less than sixteen. -/
theorem masked_lt (register : UInt8) : (register &&& 0xF).toNat < 16 := by
  rw [toNat_masked]
  exact Nat.mod_lt _ (by decide)

/-- The low digit of a byte names a cell. -/
def slot (register : UInt8) : Fin 16 := ⟨(register &&& 0xF).toNat, masked_lt register⟩

/-- The cell of a register is numbered by the remainder of its number. -/
theorem val_slot (register : UInt8) : (slot register).val = register.toNat % 16 :=
  toNat_masked register

/-- The value of a register. -/
def get (v : Registers) (register : UInt8) : UInt8 := v.cells[slot register]

/-- One register takes a value and the others keep theirs. -/
def set (v : Registers) (register value : UInt8) : Registers :=
  ⟨v.cells.set (slot register) value (slot register).isLt⟩

/-- A value is added to a register modulo 256 and no flag changes. -/
def add (v : Registers) (register value : UInt8) : Registers :=
  v.set register (v.get register + value)

/-- The flag is one or zero. -/
def setFlag (v : Registers) (flag : Bool) : Registers :=
  v.set flagRegister (if flag then 1 else 0)

/-- The values in the order of the registers. -/
def toList (v : Registers) : List UInt8 := v.cells.toList

/-- A register reads what was last written to its slot. -/
theorem get_set (v : Registers) (written read value : UInt8) :
    (v.set written value).get read =
      if slot written = slot read then value else v.get read := by
  simp only [get, set, Fin.getElem_fin, Vector.getElem_set, Fin.ext_iff]

end Registers

end Chip8
