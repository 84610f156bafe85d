import Chip8.Failure
import Chip8.Font

/-!
# Memory

4096 bytes: the font from address zero, a program from address 0x200. Addresses have sixteen
bits and only the low twelve are looked at, so every address reads and writes some cell and
reading past the end continues at the start.
-/
namespace Chip8

/-- The cells of the machine's memory. -/
structure Memory where
  /-- The cell of each twelve-bit address. -/
  cells : Vector UInt8 4096
deriving DecidableEq

namespace Memory

/-- The number of cells. -/
def size : Nat := 4096

/-- The address at which a program is placed and execution begins. -/
def programStart : Nat := 0x200

/-- The longest program reaches the end of memory. -/
def programLimit : Nat := size - programStart

/-- The low twelve bits of an address name a cell. -/
def slot (address : UInt16) : Fin 4096 := ⟨address.toNat % 4096, Nat.mod_lt _ (by decide)⟩

/-- The cell of an address is numbered by its remainder. -/
theorem val_slot (address : UInt16) : (slot address).val = address.toNat % 4096 := rfl

/-- The byte at an address. -/
def get (memory : Memory) (address : UInt16) : UInt8 := memory.cells[slot address]

/-- One cell takes a byte and the others keep theirs. -/
def set (memory : Memory) (address : UInt16) (byte : UInt8) : Memory :=
  ⟨memory.cells.set (slot address) byte (slot address).isLt⟩

/-- An address reads what was last written to its cell. -/
theorem get_set (memory : Memory) (written read : UInt16) (byte : UInt8) :
    (memory.set written byte).get read =
      if slot written = slot read then byte else memory.get read := by
  simp only [get, set, Fin.getElem_fin, Vector.getElem_set, Fin.ext_iff]

/-- Bytes are written one after the other from an address on. -/
def write (memory : Memory) (address : UInt16) : List UInt8 → Memory
  | [] => memory
  | byte :: rest => (memory.set address byte).write (address + 1) rest

/-- As many bytes as asked for are read one after the other from an address on. -/
def read (memory : Memory) (address : UInt16) : Nat → List UInt8
  | 0 => []
  | count + 1 => memory.get address :: memory.read (address + 1) count

/-- Every cell is zero. -/
def blank : Memory := ⟨Vector.replicate 4096 0⟩

/-- The font is in place and every other cell is zero. -/
def initial : Memory := blank.write (UInt16.ofNat Font.start) Font.bytes

/-- A program is refused for being empty or for not fitting, and for nothing else. -/
def refusal? (program : List UInt8) : Option Failure :=
  if program = [] then some .noProgram
  else if programLimit < program.length then
    some (.programTooLarge program.length programLimit)
  else none

/-- A program is accepted exactly when it has a byte and no more than fit. -/
theorem refusal?_eq_none_iff {program : List UInt8} :
    refusal? program = none ↔ 1 ≤ program.length ∧ program.length ≤ 3584 := by
  have limit : programLimit = 3584 := rfl
  rw [Nat.one_le_iff_ne_zero, ne_eq, List.length_eq_zero_iff, ← Nat.not_lt, refusal?, limit]
  by_cases empty : program = []
  · simp [empty]
  · simp [empty]

/-- The bytes of a program are placed from the program start on. -/
def place (memory : Memory) (program : List UInt8) : Memory :=
  memory.write (UInt16.ofNat programStart) program

/-- The cells in the order of their addresses. -/
def toList (memory : Memory) : List UInt8 := memory.cells.toList

/-- As many bytes are read as were asked for. -/
theorem length_read (memory : Memory) (address : UInt16) (count : Nat) :
    (memory.read address count).length = count := by
  induction count generalizing address with
  | zero => rfl
  | succ count inductionHypothesis => simp [read, inductionHypothesis]

end Memory

end Chip8
