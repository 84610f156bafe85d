import Chip8.Proofs.Delivery

/-!
# What happens to a machine at a moment

Some events of a list execute an instruction, and the machine is then as the instruction leaves it
(`machine_of_executed`). The others, as long as nothing is loaded and nothing reset, leave alone what
programs depend on, except whether the machine can go on (`unmoved_after`). Laws about the whole past
of a machine follow from the two.
-/
namespace Chip8

namespace Event

/-- Nothing is loaded, and the machine is not reset. -/
def KeepsProgram : Event → Prop
  | .operate operation => operation.KeepsProgram
  | .sync | .take | .setKeys _ | .updateButtons _ | .reset => True

/-- Keeping the program is read off the event. -/
instance : DecidablePred KeepsProgram
  | .operate operation => inferInstanceAs (Decidable operation.KeepsProgram)
  | .sync | .take | .setKeys _ | .updateButtons _ | .reset => .isTrue trivial

end Event

namespace Exchange

variable {exchange : Exchange} {events : List Event} {event : Event} {ins : Instruction} {now : Nat}

/-- An instruction is executed at a moment. -/
def Executes (exchange : Exchange) (events : List Event) (moment : Nat) (ins : Instruction) : Prop :=
  ∃ event, Happens events event moment ∧
    (exchange.reached events moment).executed? event = some ins

/-- Executing an instruction at a moment is executing it by the event that happens. -/
theorem executes_iff (happens : Happens events event now) :
    exchange.Executes events now ins ↔
      (exchange.reached events now).executed? event = some ins := by
  simp only [Executes, happens_inj happens, exists_eq_left']

/-- An event that executes an instruction leaves the machine as the instruction does. -/
theorem machine_of_executed (done : exchange.executed? event = some ins) :
    (exchange.after event).machine = exchange.machine.effect ins := by
  cases event with
  | operate operation => exact Machine.perform_of_executed done
  | _ => cases done

/-- An event that keeps the program and executes nothing leaves the machine unmoved. -/
theorem unmoved_after (keeps : event.KeepsProgram) (idle : exchange.executed? event = none) :
    exchange.machine.Unmoved (exchange.after event).machine := by
  cases event with
  | operate operation => exact Machine.unmoved_perform keeps idle
  | _ => exact ⟨rfl, rfl, rfl, rfl, rfl, rfl⟩

end Exchange

end Chip8
