import Chip8.Proofs.Blocks
import Chip8.Proofs.Lifecycle
import Chip8.Proofs.Lockstep

/-!
# What loading a program leaves

Loading begins with a reset, so whatever a program did to the machine, to its own code or to the
font, is gone afterwards, also when the new program is refused. What is left is the choice of shift
operand and the random source. Memory holds the font, the program behind it if it was accepted, and
zeros (`cells_load`). Two machines that agree on what is left cannot be told apart any more once they
have loaded the same program (`load_forgets`).
-/
namespace Chip8

namespace Memory

/-- A new memory holds the font at its beginning and zeros behind it. -/
theorem cells_initial (cell : Fin 4096) :
    initial.cells.get cell = (Font.bytes[cell.val]?).getD 0 := by
  have fits : Font.bytes.length ≤ 4096 := by decide
  have here : distance (UInt16.ofNat Font.start) cell = cell := by
    have start : (UInt16.ofNat Font.start).toNat = 0 := by decide
    have inside := cell.isLt
    rw [distance, start]
    omega
  have zero : blank.cells.get cell = 0 := get_replicate_cell 0 cell
  rw [initial, cells_write _ _ _ fits, here, zero]

/-- A program that fits fills the cells from 0x200 on, as far as it reaches. -/
theorem cells_place (memory : Memory) {program : List UInt8} (fits : program.length ≤ 3584)
    (cell : Fin 4096) :
    (memory.place program).cells.get cell =
      if 512 ≤ cell.val then (program[cell.val - 512]?).getD (memory.cells.get cell)
      else memory.cells.get cell := by
  have start : (UInt16.ofNat programStart).toNat = 512 := by decide
  have inside := cell.isLt
  rw [place, cells_write _ _ _ (by omega), distance, start]
  by_cases behind : 512 ≤ cell.val
  · have passed : (cell.val + 4096 - 512 % 4096) % 4096 = cell.val - 512 := by omega
    rw [if_pos behind, passed]
  · have beyond : program[(cell.val + 4096 - 512 % 4096) % 4096]? = none := by
      apply List.getElem?_eq_none
      omega
    rw [if_neg behind, beyond, Option.getD_none]

end Memory

namespace Machine

/-- A program that has a byte and fits in the memory behind the font and the gap after it. -/
def Fits (program : List UInt8) : Prop := 1 ≤ program.length ∧ program.length ≤ 3584

/-- Fitting is a comparison of sizes. -/
instance : DecidablePred Fits := fun program =>
  inferInstanceAs (Decidable (1 ≤ program.length ∧ program.length ≤ 3584))

/-- How a program is judged when it is loaded. -/
structure Judged (program : List UInt8) (refusal : Option Failure) : Prop where
  /-- A program is refused for being empty exactly when it is. -/
  empty : refusal = some .noProgram ↔ program = []
  /-- A program is refused for its size, with its size and the limit, exactly when it is longer than
  the limit. -/
  tooLarge : refusal = some (.programTooLarge program.length 3584) ↔ 3584 < program.length
  /-- Every other program is accepted. -/
  accepted : refusal = none ↔ Fits program

/-- Everything but memory is as in a new machine, except what belongs to the host. -/
structure Cleared (before after : Machine) : Prop where
  /-- The registers are those of a new machine. -/
  registers : after.registers = initial.registers
  /-- The index is that of a new machine. -/
  index : after.index = initial.index
  /-- The stack and its pointer are those of a new machine. -/
  stack : after.stack = initial.stack
  /-- The timers are those of a new machine. -/
  timers : after.timers = initial.timers
  /-- The keys are latched as in a new machine. -/
  keys : after.keys = initial.keys
  /-- The screen is that of a new machine. -/
  screen : after.screen = initial.screen
  /-- Every pixel is off. -/
  blank : ∀ cell, after.screen.pixels.get cell = 0
  /-- The picture does not wait to be taken. -/
  clean : after.screen.dirty = false
  /-- The machine is running, as a new machine is. -/
  status : after.status = initial.status
  /-- Execution begins where programs are placed. -/
  pc : after.pc = 0x200
  /-- The choice of shift operand is carried over. -/
  shift : after.shift = before.shift
  /-- The random source is carried over. -/
  random : after.random = before.random

/-- Memory holds the font, the program if it was accepted, and zeros. -/
structure Stored (program : List UInt8) (memory : Memory) : Prop where
  /-- The first eighty cells hold the font. -/
  font : ∀ cell : Fin 4096, cell.val < 80 → Font.bytes[cell.val]? = some (memory.cells.get cell)
  /-- An accepted program lies from 0x200 on. -/
  placed : Fits program → ∀ cell : Fin 4096, 512 ≤ cell.val → cell.val < 512 + program.length →
    program[cell.val - 512]? = some (memory.cells.get cell)
  /-- Every cell that holds neither font nor program is zero. -/
  zero : ∀ cell : Fin 4096, 80 ≤ cell.val →
    (Fits program → cell.val < 512 ∨ 512 + program.length ≤ cell.val) →
      memory.cells.get cell = 0

/-- A program is judged by its size alone. -/
theorem judged_load (machine : Machine) (program : List UInt8) :
    Judged program (machine.load program).refusal := by
  have limit : Memory.programLimit = 3584 := by decide
  rw [refusal_load]
  refine ⟨?_, ?_, Memory.refusal?_eq_none_iff⟩
  · rw [Memory.refusal?]
    by_cases empty : program = []
    · simp [empty]
    · by_cases large : Memory.programLimit < program.length
      · simp [empty, large]
      · simp [empty, large]
  · rw [Memory.refusal?, limit]
    by_cases empty : program = []
    · simp [empty]
    · simp [empty]

/-- Whatever a machine was, loading clears it. -/
theorem cleared_load (machine : Machine) (program : List UInt8) :
    Cleared machine (machine.load program).machine := by
  obtain ⟨memory, loaded⟩ := machine.machine_load program
  have off (cell : Fin 2048) : Screen.blankPixels.get cell = 0 := get_replicate_cell 0 cell
  rw [loaded]
  exact ⟨rfl, rfl, rfl, rfl, rfl, rfl, off, rfl, rfl, rfl, rfl, rfl⟩

/-- A program that is refused leaves a machine that was reset. -/
theorem load_of_refused {program : List UInt8} (machine : Machine)
    (refused : Memory.refusal? program ≠ none) :
    (machine.load program).machine = machine.reset := by
  rw [load, insert]
  cases judged : Memory.refusal? program with
  | none => exact absurd judged refused
  | some failure => rfl

/-- After loading, a cell from 0x200 on holds its byte of the program if that was accepted; every
other cell is as in a new memory. -/
theorem cells_load (machine : Machine) (program : List UInt8) (cell : Fin 4096) :
    (machine.load program).machine.memory.cells.get cell =
      if Fits program ∧ 512 ≤ cell.val then (program[cell.val - 512]?).getD 0
      else (Font.bytes[cell.val]?).getD 0 := by
  have font : Font.bytes.length = 80 := by decide
  by_cases fits : Fits program
  · rw [machine.load_of_accepted (Memory.refusal?_eq_none_iff.2 fits)]
    have placed := Memory.cells_place machine.reset.memory fits.2 cell
    have before : machine.reset.memory.cells.get cell = (Font.bytes[cell.val]?).getD 0 :=
      Memory.cells_initial cell
    rw [before] at placed
    by_cases behind : 512 ≤ cell.val
    · have past : Font.bytes[cell.val]? = none := by
        apply List.getElem?_eq_none
        omega
      rw [if_pos behind, past, Option.getD_none] at placed
      rw [if_pos ⟨fits, behind⟩]
      exact placed
    · rw [if_neg behind] at placed
      rw [if_neg (fun both => behind both.2)]
      exact placed
  · have refused : Memory.refusal? program ≠ none := mt Memory.refusal?_eq_none_iff.1 fits
    rw [if_neg (fun both => fits both.1), machine.load_of_refused refused]
    exact Memory.cells_initial cell

/-- Loading stores the program behind the font, in a memory that is zero otherwise. -/
theorem stored_load (machine : Machine) (program : List UInt8) :
    Stored program (machine.load program).machine.memory := by
  have length : Font.bytes.length = 80 := by decide
  have found {bytes : List UInt8} {position : Nat} (inside : position < bytes.length) :
      bytes[position]? = some ((bytes[position]?).getD 0) := by
    rw [List.getElem?_eq_getElem inside, Option.getD_some]
  refine ⟨fun cell early => ?_, fun fits cell behind inside => ?_, fun cell late other => ?_⟩
  · rw [cells_load, if_neg (by omega)]
    exact found (by omega)
  · rw [cells_load, if_pos ⟨fits, behind⟩]
    exact found (by omega)
  · have past : Font.bytes[cell.val]? = none := by
      apply List.getElem?_eq_none
      omega
    rw [cells_load, past]
    by_cases held : Fits program ∧ 512 ≤ cell.val
    · have beyond : program[cell.val - 512]? = none := by
        have left := other held.1
        apply List.getElem?_eq_none
        omega
      rw [if_pos held, beyond, Option.getD_none]
    · rw [if_neg held, Option.getD_none]

/-- Machines whose shift operand and random source agree are alike once they have loaded the same
program. -/
theorem load_eq_of_host {left right : Machine} (shift : left.shift = right.shift)
    (random : left.random = right.random) (program : List UInt8) :
    left.load program = right.load program := by
  have same : left.reset = right.reset := by
    rw [reset, reset, shift, random]
  rw [load, load, same]

/-- **Loading leaves nothing of what was before.** Whatever state a machine is in, a program is
judged by its size, the machine is cleared and memory holds font, program and zeros. Hence machines
that agree on shift operand and random source answer every history alike after they have loaded the
same program, and are in the same state at its end. -/
theorem load_forgets (machine : Machine) (program : List UInt8) :
    let loading := machine.load program
    Judged program loading.refusal ∧ Cleared machine loading.machine ∧
      Stored program loading.machine.memory ∧
      ∀ other : Machine, other.shift = machine.shift → other.random = machine.random →
        (other.load program).refusal = loading.refusal ∧
        ∀ history : List Operation,
          Operation.replies perform (other.load program).machine history =
              Operation.replies perform loading.machine history ∧
            (other.load program).machine.performAll history =
              loading.machine.performAll history := by
  intro loading
  refine ⟨machine.judged_load program, machine.cleared_load program, machine.stored_load program,
    fun other shift random => ?_⟩
  have same := load_eq_of_host shift random program
  rw [same]
  exact ⟨rfl, fun history => ⟨rfl, rfl⟩⟩

/-- A machine whose program set a timer, drew, wrote over its own first byte, called a subroutine and
met a word that is no instruction, while a key is held; the host then chose the shift operand and the
random bytes of a new machine. -/
def worn : Machine :=
  initial.performAll
    (.load [0x60, 0x07, 0xF0, 0x15, 0xA2, 0x00, 0xD0, 0x05, 0xF0, 0x55, 0x22, 0x0C, 0xFF, 0xFF] ::
      .setKey 4 true :: List.replicate 7 .step ++
      [.chooseShift .vx, .supplyRandom Generator.zero])

/-- The worn machine and a new one agree on what belongs to the host, so a program that waits for a
key, draws its digit and runs into a fault does the same on both. -/
theorem load_forgets_worn :
    let program := [0xF0, 0x0A, 0xF0, 0x29, 0xD0, 0x05, 0xFF, 0xFF]
    let history := [.step, .setKey 9 true, .step, .step, .step, .takeFrame, .step]
    worn.status = .faulted ⟨0xFFFF, 0x20C⟩ ∧ (worn.load program).refusal = none ∧
      Operation.replies perform (worn.load program).machine history =
        Operation.replies perform (initial.load program).machine history ∧
      (worn.load program).machine.performAll history =
        (initial.load program).machine.performAll history := by
  intro program history
  have shift : worn.shift = .vx := rfl
  have random : worn.random = Generator.zero := rfl
  have alike := (load_forgets initial program).2.2.2 worn shift random
  exact ⟨by decide +kernel, alike.1.trans (by decide), alike.2 history⟩

end Machine

end Chip8
