import Chip8.Proofs.Aliasing

/-!
# Registers that are stored can be restored

One instruction stores the registers from the index on and another loads them from there. Both go
through the same cells in the same order, past the last address and past the last register alike, so
what one has written the other reads back: the cell of a block that lies at a distance from its
beginning belongs to the register that has the distance as its number (`distance_add`,
`slot_distance`). A register that is stored more than once is stored with one value, and so it does
not matter that it is loaded from the last of its cells.
-/
namespace Chip8

namespace Memory

/-- An address less than 4096 after another is at that distance from it. -/
theorem distance_add (address : UInt16) {count : Nat} (inside : count < 4096) :
    distance address (slot (address + UInt16.ofNat count)) = count := by
  rw [distance, slot_add]
  omega

/-- The address at the distance of a cell names the cell. -/
theorem slot_distance (address : UInt16) (cell : Fin 4096) :
    slot (address + UInt16.ofNat (distance address cell)) = cell := by
  have inside := cell.isLt
  refine Fin.ext ?_
  rw [slot_add, distance]
  omega

end Memory

namespace Registers

/-- A register is read by any number that names its cell. -/
theorem get_ofNat (v : Registers) {number : Nat} {cell : Fin 16} (named : number % 16 = cell) :
    v.get (UInt8.ofNat number) = v.cells.get cell := by
  have same : slot (UInt8.ofNat number) = cell := by
    refine Fin.ext ?_
    rw [val_slot, UInt8.toNat_ofNat']
    omega
  show v.cells.get (slot (UInt8.ofNat number)) = v.cells.get cell
  rw [same]

end Registers

namespace Memory

/-- The address at a distance from a block of registers holds the register of that number. -/
theorem get_storeFrom (memory : Memory) (v : Registers) (address : UInt16) {x : UInt8} {count : Nat}
    (stored : count ≤ x.toNat) :
    (memory.storeFrom v address x).get (address + UInt16.ofNat count) =
      v.get (UInt8.ofNat count) := by
  have small := x.toNat_lt
  show (memory.storeFrom v address x).cells.get (slot (address + UInt16.ofNat count)) = _
  rw [cells_storeFrom, distance_add address (by omega), if_pos stored]

/-- Registers loaded from where others were stored become those, up to the last one named. -/
theorem cells_loadFrom_storeFrom (memory : Memory) (v w : Registers) (address : UInt16) (x : UInt8)
    (cell : Fin 16) :
    (w.loadFrom (memory.storeFrom v address x) address x).cells.get cell =
      if cell.val ≤ x.toNat then v.cells.get cell else w.cells.get cell := by
  have inside := cell.isLt
  rw [Registers.cells_loadFrom]
  split
  · rename_i named
    -- The register is loaded from the last cell that it was stored in.
    have last : cell + 16 * ((x.toNat - cell) / 16) ≤ x.toNat := by omega
    rw [get_storeFrom _ _ _ last]
    exact v.get_ofNat (by omega)
  · rfl

/-- Registers stored where they were just loaded from leave memory as it is, if none of them was
loaded twice. -/
theorem storeFrom_loadFrom (memory : Memory) (v : Registers) (address : UInt16) {x : UInt8}
    (single : x.toNat ≤ 15) :
    memory.storeFrom (v.loadFrom memory address x) address x = memory := by
  refine ext_memory fun cell => ?_
  rw [cells_storeFrom]
  split
  · rename_i reached
    let number : Fin 16 := ⟨distance address cell, by omega⟩
    have once : number.val + 16 * ((x.toNat - number.val) / 16) = distance address cell := by
      show distance address cell + 16 * ((x.toNat - distance address cell) / 16) = _
      omega
    have named : distance address cell % 16 = number := Nat.mod_eq_of_lt number.isLt
    rw [Registers.get_ofNat _ named, Registers.cells_loadFrom, if_pos reached, once]
    show memory.cells.get (slot (address + UInt16.ofNat (distance address cell))) = _
    rw [slot_distance]
  · rfl

end Memory

namespace Machine

open Memory (Aliases)

/-- A machine that has the registers and the memory of another one, and works from an alias of an
address. -/
structure Rewound (machine ready : Machine) (address : UInt16) : Prop where
  /-- The registers are those of the other machine. -/
  registers : ready.registers = machine.registers
  /-- Memory is that of the other machine. -/
  memory : ready.memory = machine.memory
  /-- The index names the cell of the address. -/
  index : Aliases ready.index address

/-- What loading registers leaves, after they were stored in a machine and much else was done. -/
structure Restored (before stored ready loaded : Machine) (x : UInt8) : Prop where
  /-- The registers named hold what they held before they were stored. -/
  registers : ∀ cell : Fin 16, cell.val ≤ x.toNat →
    loaded.registers.cells.get cell = before.registers.cells.get cell
  /-- The other registers are not touched. -/
  others : ∀ cell : Fin 16, x.toNat < cell.val →
    loaded.registers.cells.get cell = ready.registers.cells.get cell
  /-- Memory is as storing left it. -/
  memory : loaded.memory = stored.memory
  /-- The index has moved past the registers, modulo 2¹⁶. -/
  index : loaded.index.toNat = (ready.index.toNat + x.toNat + 1) % 65536

variable {machine ready : Machine}

/-- Pointing the index at an alias of an address rewinds a machine to the address. -/
theorem rewound_setIndex {target address : UInt16} (aliases : Aliases target address) :
    machine.Rewound (machine.execute (.setIndex target)).machine address :=
  ⟨rfl, rfl, aliases⟩

/-- The index moves past a block of registers modulo 2¹⁶. -/
theorem toNat_index_loadRegisters (machine : Machine) (x : UInt8) :
    (machine.effect (.loadRegisters x)).index.toNat =
      (machine.index.toNat + x.toNat + 1) % 65536 := by
  have small := x.toNat_lt
  show (machine.index + (x.toUInt16 + 1)).toNat = _
  rw [UInt16.toNat_add, UInt16.toNat_add, UInt8.toNat_toUInt16, UInt16.toNat_one]
  omega

/-- Registers are restored from where they were stored, if memory was left alone meanwhile. -/
theorem restored_of_kept {x : UInt8} {later : Machine}
    (kept : later.memory = (machine.effect (.storeRegisters x)).memory)
    (rewound : later.Rewound ready machine.index) :
    Restored machine (machine.effect (.storeRegisters x)) ready
      (ready.effect (.loadRegisters x)) x := by
  have stored : ready.memory = machine.memory.storeFrom machine.registers machine.index x :=
    rewound.memory.trans kept
  have loaded (cell : Fin 16) : (ready.effect (.loadRegisters x)).registers.cells.get cell =
      if cell.val ≤ x.toNat then machine.registers.cells.get cell
      else ready.registers.cells.get cell := by
    show (ready.registers.loadFrom ready.memory ready.index x).cells.get cell = _
    rw [stored, rewound.index.loadFrom_eq, Memory.cells_loadFrom_storeFrom]
  constructor
  case registers =>
    intro cell named
    rw [loaded, if_pos named]
  case others =>
    intro cell beyond
    rw [loaded, if_neg (Nat.not_le.2 beyond)]
  case memory => exact stored
  case index => exact ready.toNat_index_loadRegisters x

/-- Registers that were loaded are stored back without a change, if none was loaded twice. -/
theorem memory_of_stored_back {x : UInt8} (single : x.toNat ≤ 15)
    (rewound : (machine.effect (.loadRegisters x)).Rewound ready machine.index) :
    (ready.effect (.storeRegisters x)).memory = machine.memory := by
  have registers : ready.registers = machine.registers.loadFrom machine.memory machine.index x :=
    rewound.registers
  have memory : ready.memory = machine.memory := rewound.memory
  show ready.memory.storeFrom ready.registers ready.index x = machine.memory
  rw [memory, registers, rewound.index.storeFrom_eq, Memory.storeFrom_loadFrom _ _ _ single]

/-- **Storing and loading registers are inverse.** Store registers, then do anything that neither
loads a program nor resets the machine and executes no instruction that stores something, and bring
the index back to where it was or to an alias of that address: loading as many registers restores
their values, leaves the other registers and memory alone and moves the index past them. Conversely,
at most sixteen registers that are loaded, and stored where they came from, leave memory as it was. -/
theorem stored_registers_restored (machine : Machine) (x : UInt8) :
    let stored := (machine.execute (.storeRegisters x)).machine
    let fetched := (machine.execute (.loadRegisters x)).machine
    (∀ between : List Operation, (∀ operation ∈ between, operation.KeepsProgram) →
      (∀ ins ∈ stored.executed between, ¬ins.Stores) →
      ∀ ready, (stored.performAll between).Rewound ready machine.index →
        Restored machine stored ready (ready.execute (.loadRegisters x)).machine x) ∧
      (x.toNat ≤ 15 → ∀ ready, fetched.Rewound ready machine.index →
        (ready.execute (.storeRegisters x)).machine.memory = machine.memory) :=
  ⟨fun _ keeps idle _ rewound => restored_of_kept (memory_performAll keeps idle) rewound,
    fun single _ rewound => memory_of_stored_back single rewound⟩

/-- A machine whose index lies eight cells before the end of memory and of all addresses. -/
def brink : Machine :=
  initial.performAll
    [.execute (.setByte 1 7), .execute (.setByte 0xF 9), .execute (.setIndex 0xFFF8)]

/-- The registers fill nineteen cells across the end of memory, some registers twice, and are restored
after they were overwritten and the index was brought back to an alias; four that are loaded there
and stored back leave memory as it was. -/
theorem stored_registers_restored_brink :
    let stored := (brink.execute (.storeRegisters 18)).machine
    let between : List Operation :=
      [.execute (.setByte 1 0), .tick, .execute .clear, .execute (.setByte 0xF 3), .releaseKeys]
    let ready := ((stored.performAll between).execute (.setIndex 0x2FF8)).machine
    let loaded := (ready.execute (.loadRegisters 18)).machine
    let fetched := (brink.execute (.loadRegisters 3)).machine
    let back := (fetched.execute (.setIndex 0xFF8)).machine
    stored.memory.get 9 = 7 ∧ ready.value 1 = 0 ∧ loaded.value 1 = 7 ∧ ready.value 0xF = 3 ∧
      loaded.value 0xF = 9 ∧ loaded.memory = stored.memory ∧ loaded.index.toNat = 0x300B ∧
      (back.execute (.storeRegisters 3)).machine.memory = brink.memory := by
  intro stored between ready loaded fetched back
  have keeps : ∀ operation ∈ between, operation.KeepsProgram := by decide
  have idle : ∀ ins ∈ stored.executed between, ¬ins.Stores := by
    have executed : stored.executed between = [.setByte 1 0, .clear, .setByte 0xF 3] := by
      decide +kernel
    rw [executed]
    simp [Instruction.Stores]
  have index : Memory.Aliases 0x2FF8 brink.index := by decide +kernel
  have restored : Restored brink stored ready loaded 18 :=
    (stored_registers_restored brink 18).1 between keeps idle ready (rewound_setIndex index)
  have again : Memory.Aliases 0xFF8 brink.index := by decide +kernel
  have unchanged : (back.execute (.storeRegisters 3)).machine.memory = brink.memory :=
    (stored_registers_restored brink 3).2 (by decide) back (rewound_setIndex again)
  have moved : loaded.index.toNat = 0x300B := by
    rw [restored.index]
    decide +kernel
  have second : brink.registers.cells.get 1 = 7 := by decide +kernel
  have last : brink.registers.cells.get 15 = 9 := by decide +kernel
  exact ⟨by decide +kernel, by decide +kernel,
    (restored.registers 1 (by decide)).trans second, by decide +kernel,
    (restored.registers 15 (by decide)).trans last, restored.memory, moved, unchanged⟩

end Machine

end Chip8
