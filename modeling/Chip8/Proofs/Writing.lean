import Chip8.Proofs.Loading
import Chip8.Proofs.Occurrences
import Chip8.Proofs.Restoring

/-!
# Memory holds what was written last

Two instructions write to memory, one the decimal digits of a register and one a block of registers,
both from the index on and around the end of memory. Of every cell either an instruction writes a
byte to it, which the cell then holds, or it writes none and the cell keeps its own
(`written_or_kept`). So however the code runs, and whatever it overwrites, a cell holds the byte that
was written to it last, or its byte of the loaded program (`last_writer`).
-/
namespace Chip8

namespace Arithmetic

/-- Three digits spell a byte in decimal. -/
structure Spelled (value hundreds tens ones : UInt8) : Prop where
  /-- The hundreds are a digit. -/
  hundreds_le : hundreds.toNat ≤ 9
  /-- The tens are a digit. -/
  tens_le : tens.toNat ≤ 9
  /-- The ones are a digit. -/
  ones_le : ones.toNat ≤ 9
  /-- The digits stand for the byte. -/
  sum : 100 * hundreds.toNat + 10 * tens.toNat + ones.toNat = value.toNat

/-- Every byte is spelled by its decimal digits. -/
theorem spelled_decimalDigits (value : UInt8) :
    ∃ hundreds tens ones, decimalDigits value = [hundreds, tens, ones] ∧
      Spelled value hundreds tens ones := by
  have small := value.toNat_lt
  have hundreds : (value / 100).toNat = value.toNat / 100 := UInt8.toNat_div ..
  have tens : (value / 10 % 10).toNat = value.toNat / 10 % 10 := by
    rw [UInt8.toNat_mod, UInt8.toNat_div]
    rfl
  have ones : (value % 10).toNat = value.toNat % 10 := UInt8.toNat_mod ..
  refine ⟨value / 100, value / 10 % 10, value % 10, rfl, ?_, ?_, ?_, ?_⟩
  all_goals omega

end Arithmetic

namespace Memory

/-- The byte that a cell holds when a program was just loaded: the program lies from 0x200 on and the
font at the beginning, and every other cell is zero. -/
def image (program : List UInt8) (cell : Fin 4096) : UInt8 :=
  if 512 ≤ cell.val then (program[cell.val - 512]?).getD 0 else (Font.bytes[cell.val]?).getD 0

/-- A cell is the one so many cells past an address exactly when that is its distance. -/
theorem distance_eq_iff {address : UInt16} {cell : Fin 4096} {count : Nat} (inside : count < 4096) :
    distance address cell = count ↔ cell.val = (address.toNat + count) % 4096 := by
  have bound := cell.isLt
  rw [distance]
  omega

end Memory

namespace Machine

open Arithmetic (Spelled)

variable {machine : Machine} {ins : Instruction} {cell : Fin 4096} {byte : UInt8}

/-- An instruction writes a byte to a cell of memory. -/
inductive Writes (machine : Machine) (cell : Fin 4096) : Instruction → UInt8 → Prop
  /-- The digits of VX go to the index and the two cells behind it, the hundreds first. -/
  | digit {x hundreds tens ones byte : UInt8} {count : Nat}
    (spelled : Spelled (machine.value x) hundreds tens ones)
    (found : [hundreds, tens, ones][count]? = some byte)
    (here : cell.val = (machine.index.toNat + count) % 4096) :
    Writes machine cell (.storeDecimal x) byte
  /-- The registers from V0 on go to the index and the cells behind it, and those beyond VF begin
  with V0 again. -/
  | register {x : UInt8} {count : Nat} {register : Fin 16} (named : count ≤ x.toNat)
    (turn : register.val = count % 16)
    (here : cell.val = (machine.index.toNat + count) % 4096) :
    Writes machine cell (.storeRegisters x) (machine.registers.cells.get register)

/-- Only an instruction that stores something writes to a cell. -/
theorem Writes.stores (writes : machine.Writes cell ins byte) : ins.Stores := by
  cases writes with
  | digit | register => trivial

/-- A digit of VX is written to a cell, or none is and the cell keeps its byte. -/
theorem digit_written_or_kept (machine : Machine) (x : UInt8) (cell : Fin 4096) :
    machine.Writes cell (.storeDecimal x)
        ((machine.effect (.storeDecimal x)).memory.cells.get cell) ∨
      (∀ byte, ¬machine.Writes cell (.storeDecimal x) byte) ∧
        (machine.effect (.storeDecimal x)).memory.cells.get cell =
          machine.memory.cells.get cell := by
  obtain ⟨hundreds, tens, ones, digits, spelled⟩ :=
    Arithmetic.spelled_decimalDigits (machine.value x)
  have short : (Arithmetic.decimalDigits (machine.value x)).length ≤ 4096 := by
    rw [digits]
    exact (by decide : 3 ≤ 4096)
  have held : (machine.effect (.storeDecimal x)).memory.cells.get cell =
      ([hundreds, tens, ones][Memory.distance machine.index cell]?).getD
        (machine.memory.cells.get cell) := by
    rw [← digits]
    exact Memory.cells_write _ _ _ short cell
  rw [held]
  cases found : [hundreds, tens, ones][Memory.distance machine.index cell]? with
  | some byte =>
    have inside : Memory.distance machine.index cell < 4096 := Nat.mod_lt _ (by decide)
    exact .inl (.digit spelled found ((Memory.distance_eq_iff inside).1 rfl))
  | none =>
    refine .inr ⟨fun byte writes => ?_, rfl⟩
    have far : 3 ≤ Memory.distance machine.index cell := List.getElem?_eq_none_iff.1 found
    cases writes with
    | @digit _ _ _ _ _ count _ other here =>
      have near : count < 3 := (List.getElem?_eq_some_iff.1 other).1
      rw [(Memory.distance_eq_iff (by omega)).2 here] at far
      exact Nat.not_lt.2 far near

/-- A register is written to a cell, or none is and the cell keeps its byte. -/
theorem register_written_or_kept (machine : Machine) (x : UInt8) (cell : Fin 4096) :
    machine.Writes cell (.storeRegisters x)
        ((machine.effect (.storeRegisters x)).memory.cells.get cell) ∨
      (∀ byte, ¬machine.Writes cell (.storeRegisters x) byte) ∧
        (machine.effect (.storeRegisters x)).memory.cells.get cell =
          machine.memory.cells.get cell := by
  have small := x.toNat_lt
  have inside : Memory.distance machine.index cell < 4096 := Nat.mod_lt _ (by decide)
  have held : (machine.effect (.storeRegisters x)).memory.cells.get cell = _ :=
    machine.memory.cells_storeFrom machine.registers machine.index x cell
  rw [held]
  -- A cell takes the register that is as far behind V0 as the cell is behind the index.
  by_cases named : Memory.distance machine.index cell ≤ x.toNat
  · let register : Fin 16 :=
      ⟨Memory.distance machine.index cell % 16, Nat.mod_lt _ (by decide)⟩
    have turn : register.val = Memory.distance machine.index cell % 16 := rfl
    rw [if_pos named, machine.registers.get_ofNat turn.symm]
    exact .inl (.register named turn ((Memory.distance_eq_iff inside).1 rfl))
  · rw [if_neg named]
    refine .inr ⟨fun byte writes => named ?_, rfl⟩
    cases writes with
    | register near _ here =>
      rw [(Memory.distance_eq_iff (by omega)).2 here]
      exact near

/-- **One instruction.** Either an instruction writes a byte to a cell, which then holds it, or it
writes none and the cell keeps the byte that it held. -/
theorem written_or_kept (machine : Machine) (ins : Instruction) (cell : Fin 4096) :
    machine.Writes cell ins ((machine.effect ins).memory.cells.get cell) ∨
      (∀ byte, ¬machine.Writes cell ins byte) ∧
        (machine.effect ins).memory.cells.get cell = machine.memory.cells.get cell := by
  by_cases stores : ins.Stores
  · cases ins with
    | storeDecimal x => exact machine.digit_written_or_kept x cell
    | storeRegisters x => exact machine.register_written_or_kept x cell
    | _ => exact stores.elim
  · rw [memory_effect stores]
    exact .inr ⟨fun byte writes => stores writes.stores, rfl⟩

end Machine

namespace Exchange

variable {exchange : Exchange} {events : List Event} {event : Event} {cell : Fin 4096} {now : Nat}

/-- A byte is written to a cell at a moment: an instruction is executed that writes it there. -/
def Writes (exchange : Exchange) (events : List Event) (cell : Fin 4096) (moment : Nat)
    (byte : UInt8) : Prop :=
  ∃ ins, exchange.Executes events moment ins ∧
    (exchange.reached events moment).machine.Writes cell ins byte

/-- The byte of a cell at a moment. -/
def byteAt (exchange : Exchange) (events : List Event) (now : Nat) (cell : Fin 4096) : UInt8 :=
  (exchange.reached events now).machine.memory.cells.get cell

/-- What memory holds at a moment, after it held an image at the beginning. -/
structure Traced (exchange : Exchange) (events : List Event) (image : Fin 4096 → UInt8) (now : Nat) :
    Prop where
  /-- A cell holds the byte that was written to it last, or its byte of the image if none was. -/
  held : ∀ cell, Latest (exchange.Writes events cell) (image cell) now
    (exchange.byteAt events now cell)
  /-- An event changes a cell only by executing an instruction that writes to it. -/
  changed : ∀ event, Happens events event now → ∀ cell,
    exchange.byteAt events (now + 1) cell ≠ exchange.byteAt events now cell →
      exchange.Writes events cell now (exchange.byteAt events (now + 1) cell)

/-- **One event.** Either a byte is written to a cell now, which it holds a moment later, or none is
and the cell keeps the byte that it held. -/
theorem written_or_kept (happens : Happens events event now) (keeps : event.KeepsProgram)
    (cell : Fin 4096) :
    exchange.Writes events cell now (exchange.byteAt events (now + 1) cell) ∨
      (∀ byte, ¬exchange.Writes events cell now byte) ∧
        exchange.byteAt events (now + 1) cell = exchange.byteAt events now cell := by
  have writes_iff (byte : UInt8) : exchange.Writes events cell now byte ↔
      ∃ ins, (exchange.reached events now).executed? event = some ins ∧
        (exchange.reached events now).machine.Writes cell ins byte :=
    exists_congr fun ins => and_congr_left' (executes_iff happens)
  simp only [writes_iff, byteAt, reached_succ happens]
  cases done : (exchange.reached events now).executed? event with
  | some ins =>
    rw [machine_of_executed done]
    simp only [Option.some.injEq, exists_eq_left']
    exact Machine.written_or_kept _ ins cell
  | none =>
    have memory := (unmoved_after keeps done).memory
    refine .inr ⟨?_, congrArg (fun memory => memory.cells.get cell) memory⟩
    rintro byte ⟨ins, executes, _⟩
    cases executes

/-- A cell that holds the byte written last does so after any event that keeps the program. -/
theorem latest_after {first : UInt8} (happens : Happens events event now)
    (keeps : event.KeepsProgram)
    (latest : Latest (exchange.Writes events cell) first now (exchange.byteAt events now cell)) :
    Latest (exchange.Writes events cell) first (now + 1)
      (exchange.byteAt events (now + 1) cell) := by
  rcases written_or_kept happens keeps cell with written | ⟨unwritten, kept⟩
  · exact latest_of_given written
  · rw [kept]
    exact latest.succ unwritten

/-- Memory that holds an image at the beginning is traced to what was written to it. -/
theorem traced (keeps : ∀ event ∈ events, event.KeepsProgram) {image : Fin 4096 → UInt8}
    (begun : ∀ cell, exchange.machine.memory.cells.get cell = image cell)
    (within : now ≤ events.length) : exchange.Traced events image now := by
  constructor
  · intro cell
    refine holds_at_moments (fun now => Latest (exchange.Writes events cell) (image cell) now
      (exchange.byteAt events now cell)) ?_ ?_ within
    · have here : exchange.byteAt events 0 cell = image cell := begun cell
      rw [here]
      exact latest_zero
    · intro now event happens latest
      exact latest_after happens (keeps event (List.mem_of_getElem? happens)) latest
  · intro event happens cell different
    have kept := keeps event (List.mem_of_getElem? happens)
    rcases written_or_kept happens kept cell with written | ⟨_, same⟩
    · exact written
    · exact absurd same different

/-- **The last writer.** After a program was loaded, and through whatever follows without another
loading or a reset, each cell of memory holds the byte that an executed instruction wrote to it last,
a decimal digit or a register, or else its byte of the loaded program; nothing else changes a
cell. -/
theorem last_writer (exchange : Exchange) {program : List UInt8}
    (accepted : (exchange.machine.load program).refusal = none) {events : List Event}
    (keeps : ∀ event ∈ events, event.KeepsProgram) {now : Nat} (within : now ≤ events.length) :
    (exchange.after (.operate (.load program))).Traced events (Memory.image program) now := by
  have fits : Machine.Fits program := (exchange.machine.judged_load program).accepted.1 accepted
  refine traced keeps (fun cell => ?_) within
  show (exchange.machine.load program).machine.memory.cells.get cell = Memory.image program cell
  rw [Machine.cells_load, Memory.image]
  simp only [fits, true_and]

/-- A program that writes the decimal digits of 147 around the end of memory and over the font, and
then a register over the instruction that writes it. -/
def overwriting : List UInt8 := [0xAF, 0xFE, 0x60, 0x93, 0xF0, 0x33, 0xA2, 0x08, 0xF0, 0x55]

/-- The host executes that program, and does other things in between. -/
def oversteps : List Event :=
  [.operate .step, .operate .tick, .operate .step, .operate .step, .sync, .operate .step,
    .operate .step, .take, .operate .step]

/-- The last digit lies at the beginning of memory, where the font was, the register where the
instruction was, and the byte behind it is still the one that was loaded. -/
theorem last_writer_overwriting :
    let begun := (start Machine.initial).after (.operate (.load overwriting))
    let held := fun (cell : Fin 4096) byte =>
      Latest (begun.Writes oversteps cell) (Memory.image overwriting cell) 9 byte
    (Machine.initial.load overwriting).refusal = none ∧
      (∀ event ∈ oversteps, event.KeepsProgram) ∧ 9 ≤ oversteps.length ∧
      held ⟨0, by decide⟩ 7 ∧ held ⟨520, by decide⟩ 147 ∧ held ⟨521, by decide⟩ 0x55 := by
  intro begun held
  have accepted : (Machine.initial.load overwriting).refusal = none := by decide +kernel
  have keeps : ∀ event ∈ oversteps, event.KeepsProgram := by decide
  have traced : begun.Traced oversteps (Memory.image overwriting) 9 :=
    last_writer (start Machine.initial) accepted keeps (by decide)
  have digit : begun.byteAt oversteps 9 ⟨0, by decide⟩ = 7 := by decide +kernel
  have register : begun.byteAt oversteps 9 ⟨520, by decide⟩ = 147 := by decide +kernel
  have loaded : begun.byteAt oversteps 9 ⟨521, by decide⟩ = 0x55 := by decide +kernel
  exact ⟨accepted, keeps, by decide, digit ▸ traced.held _, register ▸ traced.held _,
    loaded ▸ traced.held _⟩

end Exchange

end Chip8
