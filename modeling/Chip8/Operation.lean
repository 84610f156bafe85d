import Chip8.Run

/-!
# Histories of a machine

What a host can do to a machine is data here, so that a history is a list of operations and a
law about every history is an induction on lists. An operation hands back what the host learns
from it; a step and a direct execution also tell which instruction they executed. A run against
a clock is such a history too: `Run.operations` lists what it does to its machine.
-/
namespace Chip8

/-- One thing that a host does to a machine. -/
inductive Operation where
  /-- The machine steps. -/
  | step
  /-- An instruction is executed directly, whatever memory holds. -/
  | execute (ins : Instruction)
  /-- Both timers tick. -/
  | tick
  /-- The keys that are held are latched. -/
  | latch (keys : Keypad)
  /-- One key is pressed or released. -/
  | setKey (key : UInt8) (pressed : Bool)
  /-- Every key is released. -/
  | releaseKeys
  /-- The register that shifts read is chosen. -/
  | chooseShift (shift : ShiftOperand)
  /-- A random source is supplied. -/
  | supplyRandom (random : Generator)
  /-- The picture is taken if it waits. -/
  | takeFrame
  /-- A program is loaded. -/
  | load (program : List UInt8)
  /-- The machine is reset. -/
  | reset

/-- What a host learns from an operation. -/
inductive Reply where
  /-- Nothing. -/
  | done
  /-- The outcome of a step or of an instruction. -/
  | outcome (outcome : Outcome)
  /-- The picture, if it waited. -/
  | frame (pixels : Option Pixels)
  /-- Why a program was refused, if it was. -/
  | loaded (refusal : Option Failure)

namespace Outcome

/-- The instruction that was executed, if one was. -/
def executed? : Outcome → Option Instruction
  | .executed ins => some ins
  | .awaitingKey | .faulted _ => none

end Outcome

namespace Reply

/-- The instruction that an operation executed, if it executed one. -/
def executed? : Reply → Option Instruction
  | .outcome result => result.executed?
  | .done | .frame _ | .loaded _ => none

end Reply

namespace Operation

/-- An operation other than executing an instruction directly: what runs is what memory
holds. -/
def Stepwise : Operation → Prop
  | .execute _ => False
  | _ => True

/-- An operation that neither loads a program nor resets the machine. -/
def KeepsProgram : Operation → Prop
  | .load _ | .reset => False
  | _ => True

/-- Being stepwise is read off the operation. -/
instance : DecidablePred Stepwise
  | .execute _ => .isFalse id
  | .step | .tick | .latch _ | .setKey _ _ | .releaseKeys | .chooseShift _ | .supplyRandom _
  | .takeFrame | .load _ | .reset => .isTrue trivial

/-- Keeping the program is read off the operation. -/
instance : DecidablePred KeepsProgram
  | .load _ | .reset => .isFalse id
  | .step | .execute _ | .tick | .latch _ | .setKey _ _ | .releaseKeys | .chooseShift _
  | .supplyRandom _ | .takeFrame => .isTrue trivial

end Operation

namespace Machine

/-- An operation is performed on a machine. -/
def perform (machine : Machine) : Operation → Reply × Machine
  | .step => (.outcome machine.step.outcome, machine.step.machine)
  | .execute ins => (.outcome (machine.execute ins).outcome, (machine.execute ins).machine)
  | .tick => (.done, machine.tick)
  | .latch keys => (.done, machine.latch keys)
  | .setKey key pressed => (.done, machine.setKey key pressed)
  | .releaseKeys => (.done, machine.releaseKeys)
  | .chooseShift shift => (.done, machine.withShift shift)
  | .supplyRandom random => (.done, machine.withRandom random)
  | .takeFrame => (.frame machine.takeFrame.1, machine.takeFrame.2)
  | .load program => (.loaded (machine.load program).refusal, (machine.load program).machine)
  | .reset => (.done, machine.reset)

/-- The machine after a history. -/
def performAll (machine : Machine) (history : List Operation) : Machine :=
  history.foldl (fun machine operation => (machine.perform operation).2) machine

/-- The instructions that a history executes, in order. -/
def executed (machine : Machine) : List Operation → List Instruction
  | [] => []
  | operation :: later =>
    (machine.perform operation).1.executed?.toList ++ (machine.perform operation).2.executed later

/-- A history that begins with an operation continues from what the operation leaves. -/
theorem performAll_cons (machine : Machine) (operation : Operation) (later : List Operation) :
    machine.performAll (operation :: later) = (machine.perform operation).2.performAll later :=
  rfl

/-- A history in two parts continues from what the first part leaves. -/
theorem performAll_append (machine : Machine) (earlier later : List Operation) :
    machine.performAll (earlier ++ later) = (machine.performAll earlier).performAll later :=
  List.foldl_append

/-- A history in two parts executes what the first part executes and then what the second part
executes. -/
theorem executed_append (machine : Machine) (earlier later : List Operation) :
    machine.executed (earlier ++ later) =
      machine.executed earlier ++ (machine.performAll earlier).executed later := by
  induction earlier generalizing machine with
  | nil => rfl
  | cons operation earlier inductionHypothesis =>
    simp only [List.cons_append, executed, performAll_cons, inductionHypothesis,
      List.append_assoc]

end Machine

namespace Run

/-- What one look at the clock does to the machine before the panel is brought up to date. -/
def workOperations (run : Run) (look : Look) : List Operation :=
  let ticks := (run.timers.due look.now).count
  let due := (run.cpu.due look.now).count
  List.replicate ticks .tick ++
    if due = 0 then [] else .latch look.keys :: List.replicate (look.begun due) .step

/-- What one look at the clock does to the machine. -/
def lookOperations (run : Run) (look : Look) : List Operation :=
  run.workOperations look ++ [.takeFrame]

/-- What a run does to its machine, until its looks end or one of them meets a fault. -/
def operations : Run → List Look → List Operation
  | _, [] => []
  | run, look :: later =>
    run.lookOperations look ++
      match run.poll look with
      | (run, none) => operations run later
      | (_, some _) => []

end Run

end Chip8
