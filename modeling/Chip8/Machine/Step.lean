import Chip8.Instruction.Decode
import Chip8.Machine.Execute

/-!
# Stepping

A step executes the instruction at the program counter, looks again for the key that is
awaited, or repeats the fault that stopped the machine. Waiting for a key fetches nothing: the
status remembers the register. `step?` reads the word digit by digit and carries every refusal
on the way; no step meets one, so it always yields the turn of `step`.
-/
namespace Chip8.Machine

/-- The instruction at the program counter. -/
def current (machine : Machine) : Instruction := Instruction.decode machine.fetch

/-- The lowest key held ends the wait of a register; with no key held nothing changes. -/
def resume (machine : Machine) (register : UInt8) : Turn :=
  match machine.keys.first? with
  | some key =>
    ⟨.executed (.awaitKey register), machine.acceptKey register key,
      [.keyAccepted key register]⟩
  | none => ⟨.awaitingKey, machine, []⟩

/-- One step of the machine. -/
def step (machine : Machine) : Turn :=
  match machine.status with
  | .faulted fault => ⟨.faulted fault, machine, []⟩
  | .awaitingKey register => machine.resume register
  | .running => machine.execute machine.current

/-- One step of the machine, reading the word digit by digit and executing with every check. -/
def step? (machine : Machine) : Option Turn :=
  match machine.status with
  | .faulted fault => some ⟨.faulted fault, machine, []⟩
  | .awaitingKey register => some (machine.resume register)
  | .running => (Instruction.read? machine.fetch).bind machine.execute?

/-- A number of steps that ends early at a fault. -/
def steps : Nat → Machine → Machine × Option Fault
  | 0, machine => (machine, none)
  | count + 1, machine =>
    match machine.step with
    | ⟨.faulted fault, after, _⟩ => (after, some fault)
    | ⟨_, after, _⟩ => steps count after

/-- A decoded base is below 4096 and V0 below 256, so their sum stays within sixteen bits. -/
theorem not_overflows_decode (machine : Machine) (word : UInt16) :
    ¬machine.Overflows (Instruction.decode word) := by
  have small := (machine.value 0).toNat_lt
  have address := Word.toNat_address word
  unfold Instruction.decode
  dsimp only
  split
  case h_1 =>
    by_cases clears : word = 0x00E0 <;> by_cases returns : word = 0x00EE <;>
      simp [Instruction.ofSystem?, clears, returns, Overflows]
  case h_9 => unfold Instruction.ofArithmetic?; split <;> simp [Overflows]
  case h_12 => simp only [Overflows]; omega
  case h_15 => unfold Instruction.ofKeypad?; split <;> simp [Overflows]
  case h_16 => unfold Instruction.ofDevice?; split <;> simp [Overflows]
  all_goals simp [Overflows]

/-- No step meets a refusal. -/
theorem step?_eq_step (machine : Machine) : machine.step? = some machine.step := by
  unfold step? step
  split
  · rfl
  · rfl
  · simp [Instruction.read?_eq_decode, execute?, not_overflows_decode, current]

end Chip8.Machine
