import Chip8.Machine.Execute

/-!
# Blocks of memory and of registers

Several instructions move a row of bytes between memory and registers. Addresses run around
the end of memory, so a cell is located by its distance from the address at which a block
begins: how many cells one passes from there to reach it. A block written to memory is read
back by that distance, and registers loaded from memory hold the bytes of the last round in
which they were loaded.
-/
namespace Chip8

/-- A cell reads what was last written to it, and the other cells keep what they hold. -/
theorem get_set_cell {α : Type} {size : Nat} (cells : Vector α size) (written read : Fin size)
    (value : α) :
    (cells.set written value written.isLt).get read =
      if written = read then value else cells.get read := by
  show (cells.set written value written.isLt)[read.val] = if _ then value else cells[read.val]
  rw [Vector.getElem_set]
  simp only [Fin.ext_iff]

/-- Cells that were filled by a rule hold what the rule says. -/
theorem get_ofFn_cell {α : Type} {size : Nat} (rule : Fin size → α) (cell : Fin size) :
    (Vector.ofFn rule).get cell = rule cell := by
  show (Vector.ofFn rule)[cell.val] = rule cell
  rw [Vector.getElem_ofFn]

/-- Cells that were all filled with one value hold it. -/
theorem get_replicate_cell {α : Type} {size : Nat} (value : α) (cell : Fin size) :
    (Vector.replicate size value).get cell = value := by
  show (Vector.replicate size value)[cell.val] = value
  rw [Vector.getElem_replicate]

/-- Rows of cells are equal when every cell holds the same. -/
theorem ext_cells {α : Type} {size : Nat} {left right : Vector α size}
    (same : ∀ cell : Fin size, left.get cell = right.get cell) : left = right :=
  Vector.ext fun position inside => same ⟨position, inside⟩

namespace Memory

/-- The cells passed from an address on until a cell is reached. -/
def distance (address : UInt16) (cell : Fin 4096) : Nat :=
  (cell.val + 4096 - address.toNat % 4096) % 4096

/-- The address of a cell is no distance away from it. -/
theorem distance_eq_zero_iff {address : UInt16} {cell : Fin 4096} :
    distance address cell = 0 ↔ slot address = cell := by
  have inside := cell.isLt
  simp only [distance, Fin.ext_iff, val_slot]
  omega

/-- Any other cell is one less away from the next address. -/
theorem distance_succ {address : UInt16} {cell : Fin 4096} (other : slot address ≠ cell) :
    distance address cell = distance (address + 1) cell + 1 := by
  have inside := cell.isLt
  simp only [ne_eq, Fin.ext_iff, val_slot] at other
  simp only [distance, UInt16.toNat_add, UInt16.toNat_one]
  omega

/-- From just behind an address its cell is the farthest. -/
theorem distance_farthest (address : UInt16) :
    distance (address + 1) (slot address) = 4095 := by
  simp only [distance, val_slot, UInt16.toNat_add, UInt16.toNat_one]
  omega

/-- A cell reads what was last written to it. -/
theorem cells_set (memory : Memory) (address : UInt16) (byte : UInt8) (cell : Fin 4096) :
    (memory.set address byte).cells.get cell =
      if slot address = cell then byte else memory.cells.get cell := by
  exact get_set_cell memory.cells (slot address) cell byte

/-- Memories are equal when every cell holds the same. -/
theorem ext_memory {left right : Memory}
    (same : ∀ cell : Fin 4096, left.cells.get cell = right.cells.get cell) : left = right := by
  obtain ⟨leftCells⟩ := left
  obtain ⟨rightCells⟩ := right
  exact congrArg Memory.mk (ext_cells same)

/-- After a block of at most 4096 bytes is written, a cell holds the byte of the block at its
distance, or what it held before if the block does not reach it. -/
theorem cells_write (memory : Memory) (address : UInt16) (bytes : List UInt8)
    (fits : bytes.length ≤ 4096) (cell : Fin 4096) :
    (memory.write address bytes).cells.get cell =
      (bytes[distance address cell]?).getD (memory.cells.get cell) := by
  induction bytes generalizing memory address with
  | nil => rfl
  | cons byte rest inductionHypothesis =>
    have restFits : rest.length ≤ 4095 := by
      simp only [List.length_cons] at fits
      omega
    rw [write, inductionHypothesis _ _ (by omega), cells_set]
    by_cases reached : slot address = cell
    · subst reached
      have beyond : rest[distance (address + 1) (slot address)]? = none := by
        rw [distance_farthest]
        exact List.getElem?_eq_none restFits
      rw [beyond, distance_eq_zero_iff.2 rfl]
      simp
    · rw [if_neg reached, distance_succ reached, List.getElem?_cons_succ]

/-- The addresses that follow the next address follow the address one later. -/
theorem add_one_add (address : UInt16) (count : Nat) :
    address + 1 + UInt16.ofNat count = address + UInt16.ofNat (count + 1) := by
  rw [UInt16.add_assoc, UInt16.ofNat_add, UInt16.add_comm 1]
  rfl

/-- The last byte of a block is written behind the others. -/
theorem write_concat (memory : Memory) (address : UInt16) (bytes : List UInt8) (last : UInt8) :
    memory.write address (bytes ++ [last]) =
      (memory.write address bytes).set (address + UInt16.ofNat bytes.length) last := by
  induction bytes generalizing memory address with
  | nil =>
    have here : address + UInt16.ofNat 0 = address := UInt16.add_zero address
    rw [List.length_nil, here]
    rfl
  | cons byte rest inductionHypothesis =>
    rw [List.cons_append, write, inductionHypothesis, add_one_add]
    rfl

/-- The cell at a distance from an address is counted modulo the size of memory. -/
theorem slot_add (address : UInt16) (count : Nat) :
    (slot (address + UInt16.ofNat count)).val = (address.toNat + count) % 4096 := by
  simp only [val_slot, UInt16.toNat_add, UInt16.toNat_ofNat']
  omega

/-- Reading takes the bytes at the addresses that follow one another. -/
theorem getElem?_read (memory : Memory) (address : UInt16) (count position : Nat) :
    (memory.read address count)[position]? =
      if position < count then some (memory.get (address + UInt16.ofNat position)) else none := by
  induction count generalizing address position with
  | zero => rfl
  | succ count inductionHypothesis =>
    cases position with
    | zero => simp [read]
    | succ position =>
      rw [read, List.getElem?_cons_succ, inductionHypothesis, add_one_add]
      simp only [Nat.add_lt_add_iff_right]

end Memory

namespace Registers

/-- A register reads what was last written to it. -/
theorem cells_set (v : Registers) (register value : UInt8) (cell : Fin 16) :
    (v.set register value).cells.get cell =
      if register.toNat % 16 = cell then value else v.cells.get cell := by
  have named : slot register = cell ↔ register.toNat % 16 = cell := by
    rw [Fin.ext_iff, val_slot]
  rw [set, get_set_cell]
  simp only [named]

/-- Registers are equal when every cell holds the same. -/
theorem ext_registers {v w : Registers}
    (same : ∀ cell : Fin 16, v.cells.get cell = w.cells.get cell) : v = w := by
  obtain ⟨left⟩ := v
  obtain ⟨right⟩ := w
  exact congrArg Registers.mk (ext_cells same)

/-- The byte that a register holds after a number of bytes were loaded from an address on: the
registers are filled in turn, so it is the last byte that fell to the register. -/
theorem cells_foldl_set (v : Registers) (memory : Memory) (address : UInt16) (count : Nat)
    (cell : Fin 16) :
    ((List.range count).foldl
      (fun v k => v.set (UInt8.ofNat k) (memory.get (address + UInt16.ofNat k))) v).cells.get cell =
      if cell.val < count then
        memory.get (address + UInt16.ofNat (cell + 16 * ((count - 1 - cell) / 16)))
      else v.cells.get cell := by
  have inside := cell.isLt
  induction count with
  | zero => rfl
  | succ count inductionHypothesis =>
    rw [List.range_succ, List.foldl_append, List.foldl_cons, List.foldl_nil, cells_set,
      inductionHypothesis]
    have turn : (UInt8.ofNat count).toNat % 16 = count % 16 := by
      rw [UInt8.toNat_ofNat']
      omega
    rw [turn]
    by_cases falls : count % 16 = cell
    · have last : cell.val + 16 * ((count + 1 - 1 - cell) / 16) = count := by omega
      rw [if_pos falls, if_pos (by omega), last]
    · have round : (count + 1 - 1 - cell.val) / 16 = (count - 1 - cell) / 16 := by omega
      have reached : cell.val < count + 1 ↔ cell.val < count := by omega
      rw [if_neg falls, round]
      simp only [reached]

/-- Loading fills the registers up to the last one named, each with the byte of the last round
in which it was loaded. -/
theorem cells_loadFrom (v : Registers) (memory : Memory) (address : UInt16) (x : UInt8)
    (cell : Fin 16) :
    (v.loadFrom memory address x).cells.get cell =
      if cell.val ≤ x.toNat then
        memory.get (address + UInt16.ofNat (cell + 16 * ((x.toNat - cell) / 16)))
      else v.cells.get cell := by
  rw [loadFrom, cells_foldl_set]
  simp only [Nat.lt_succ_iff, Nat.add_sub_cancel]

end Registers

namespace Memory

/-- Storing fills the cells that lie no further from the address than the last register named,
each with the register of that number. -/
theorem cells_storeFrom (memory : Memory) (v : Registers) (address : UInt16) (x : UInt8)
    (cell : Fin 4096) :
    (memory.storeFrom v address x).cells.get cell =
      if distance address cell ≤ x.toNat then v.get (UInt8.ofNat (distance address cell))
      else memory.cells.get cell := by
  have small := x.toNat_lt
  have fits : ((List.range (x.toNat + 1)).map fun k => v.get (UInt8.ofNat k)).length ≤ 4096 := by
    rw [List.length_map, List.length_range]
    omega
  rw [storeFrom, cells_write _ _ _ fits]
  by_cases reached : distance address cell ≤ x.toNat
  · rw [if_pos reached, List.getElem?_map, List.getElem?_range (by omega)]
    rfl
  · rw [if_neg reached, List.getElem?_map, List.getElem?_eq_none (by
      rw [List.length_range]
      omega)]
    rfl

end Memory

end Chip8
