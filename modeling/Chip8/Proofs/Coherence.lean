import Chip8.Proofs.Histories
import Chip8.Proofs.Patterns

/-!
# The status agrees with memory

A waiting machine remembers its register and a stopped machine its fault, although the word at
the program counter already states both. The copies never go stale: however a host reaches a
machine by loading, stepping, running against a clock and whatever it does in between, a wait is
for the register of the instruction at the program counter, and a fault names the word there
(`coherent_of_reachable`). Executing an instruction directly would break the agreement, because
nothing then relates the instruction to memory.
-/
namespace Chip8

/-- A machine that a host can reach without executing an instruction directly. -/
inductive Reachable : Machine → Prop
  /-- A new machine. -/
  | fresh (shift : ShiftOperand) (random : Generator) : Reachable (Machine.fresh shift random)
  /-- An operation other than a direct execution, whether it succeeds or not. -/
  | perform {machine : Machine} {operation : Operation} (reachable : Reachable machine)
    (stepwise : operation.Stepwise) : Reachable (machine.perform operation).2
  /-- Bringing a panel up to date. -/
  | sync {machine : Machine} (panel : Panel) (reachable : Reachable machine) :
    Reachable (panel.sync machine).2
  /-- A run against a clock. -/
  | attended {machine : Machine} (settings : Settings) (moment : Int) (looks : List Look)
    (panel : Panel) (reachable : Reachable machine) :
    Reachable (Run.attended settings moment looks machine panel).machine

namespace Machine

variable {machine : Machine}

/-- What the status repeats of memory and of the program counter is true. -/
structure Coherent (machine : Machine) : Prop where
  /-- A wait is for the register of the instruction at the program counter. -/
  waiting : ∀ register, machine.status = .awaitingKey register →
    register.toNat ≤ 15 ∧ Instruction.decode machine.fetch = .awaitKey register
  /-- A fault names the program counter and the word there, which is no instruction. -/
  faulted : ∀ word address, machine.status = .faulted ⟨word, address⟩ →
    address = machine.pc ∧ machine.fetch = word ∧
      Instruction.decode word = .unimplemented word

/-- The status of a running machine repeats nothing. -/
theorem Coherent.of_running (running : machine.status = .running) : machine.Coherent := by
  constructor
  · intro register status
    rw [running] at status
    cases status
  · intro word address status
    rw [running] at status
    cases status

/-- An undisturbed machine stays coherent. -/
theorem Coherent.of_undisturbed {after : Machine} (coherent : machine.Coherent)
    (same : machine.Undisturbed after) : after.Coherent := by
  have fetched : after.fetch = machine.fetch := by rw [fetch, fetch, same.pc, same.memory]
  constructor
  · intro register status
    rw [same.status] at status
    rw [fetched]
    exact coherent.waiting register status
  · intro word address status
    rw [same.status] at status
    rw [fetched, same.pc]
    exact coherent.faulted word address status

/-- A word that decodes to a wait names a register by its low digit. -/
theorem register_of_decode {word : UInt16} {register : UInt8}
    (waits : Instruction.decode word = .awaitKey register) : register.toNat ≤ 15 := by
  have written : Instruction.Written word (.awaitKey register) := by
    refine (Instruction.decode_eq_iff fun value same => ?_).1 waits
    cases same
  exact Nat.le_of_lt_succ written.1

/-- A step keeps a machine coherent. -/
theorem Coherent.step (coherent : machine.Coherent) : machine.step.machine.Coherent := by
  have stepped := machine.step_cases
  generalize machine.step.outcome = outcome, machine.step.machine = after at stepped
  cases stepped with
  | executed hand running => exact .of_running running
  | halted stopped => exact coherent
  | @waiting register hand nobody =>
    have here : machine.current = .awaitKey register := by
      cases hand with
      | next running here => exact here
      | awaited waiting => exact (coherent.waiting register waiting).2
    constructor
    · intro other status
      obtain rfl := Status.awaitingKey.inj status
      exact ⟨register_of_decode here, here⟩
    · intro word address status
      cases status
  | @faulted word running here =>
    -- The word that is no instruction is the word that was fetched.
    have fetched : word = machine.fetch := (Instruction.decode_eq_unimplemented_iff.1 here).1
    constructor
    · intro register status
      cases status
    · intro other address status
      obtain ⟨rfl, rfl⟩ := Fault.mk.inj (Status.faulted.inj status)
      refine ⟨rfl, fetched.symm, ?_⟩
      rw [fetched] at here ⊢
      exact here

/-- Every operation but a direct execution keeps a machine coherent. -/
theorem Coherent.perform {operation : Operation} (coherent : machine.Coherent)
    (stepwise : operation.Stepwise) : (machine.perform operation).2.Coherent := by
  cases operation with
  | step => exact coherent.step
  | execute => exact stepwise.elim
  | reset => exact .of_running rfl
  | load program => exact .of_running (machine.status_load program)
  | _ => exact coherent.of_undisturbed (perform_between _ trivial)

/-- A run keeps a machine coherent. -/
theorem Coherent.attended (coherent : machine.Coherent) (settings : Settings) (moment : Int)
    (looks : List Look) (panel : Panel) :
    (Run.attended settings moment looks machine panel).machine.Coherent := by
  have started : (machine.withShift settings.shift).Coherent :=
    coherent.of_undisturbed ⟨rfl, rfl, rfl, rfl, rfl, rfl, rfl⟩
  refine Run.attended_keeps Coherent started (fun _ kept operation paced => ?_) moment looks panel
  exact kept.perform paced.stepwise

/-- **The status agrees with memory.** In every reachable state a wait is for the register of
the instruction at the program counter, and a fault names the program counter and the word
there, which is no instruction. -/
theorem coherent_of_reachable (reachable : Reachable machine) : machine.Coherent := by
  induction reachable with
  | fresh shift random => exact .of_running rfl
  | perform _ stepwise coherent => exact coherent.perform stepwise
  | sync panel _ coherent => exact coherent.of_undisturbed ⟨rfl, rfl, rfl, rfl, rfl, rfl, rfl⟩
  | attended settings moment looks panel _ coherent =>
    exact coherent.attended settings moment looks panel

/-- A machine that was loaded with the word F40A and has stepped, and so waits for a key. -/
def awaitsFourth : Machine := initial.performAll [.load [0xF4, 0x0A], .step]

/-- The machine that waits is reachable, so it waits for the register that its word names. -/
theorem coherent_awaitsFourth :
    Reachable awaitsFourth ∧ awaitsFourth.status = .awaitingKey 4 ∧ awaitsFourth.Coherent := by
  have reachable : Reachable awaitsFourth :=
    .perform (.perform (.fresh .vx Generator.zero) trivial) trivial
  have waiting : awaitsFourth.status = .awaitingKey 4 := by decide +kernel
  exact ⟨reachable, waiting, coherent_of_reachable reachable⟩

end Machine

end Chip8
