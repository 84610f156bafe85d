import Chip8.Operation

/-!
# What instructions and steps leave alone

Every instruction changes few components of the machine, and each law here follows one
component through all of them. The two ways that some instructions may go are merged into one change
for that (`effect_eq_merged`). A step executes the instruction at hand, which is the next one or
the one that waits for a key, or it does nothing because the machine has met a fault
(`step_cases`); the laws of instructions thereby are laws of steps. What a host does between two
steps leaves alone what programs depend on (`perform_between`).
-/
namespace Chip8

namespace Instruction

/-- An instruction that draws upon the screen. -/
def Draws : Instruction → Prop
  | .clear | .draw _ _ _ => True
  | _ => False

/-- An instruction that writes to memory. -/
def Stores : Instruction → Prop
  | .storeDecimal _ | .storeRegisters _ => True
  | _ => False

end Instruction

namespace Machine

variable {machine : Machine}

/-- Waiting for a key changes the status alone, unless a key is held. -/
theorem effect_awaitKey_idle {x : UInt8} (nobody : machine.keys.first? = none) :
    machine.effect (.awaitKey x) = { machine with status := .awaitingKey x } := by
  simp only [effect, nobody]

/-- Waiting for a key ends at once if a key is held. -/
theorem effect_awaitKey_held {x key : UInt8} (first : machine.keys.first? = some key) :
    machine.effect (.awaitKey x) = machine.acceptKey x key := by
  simp only [effect, first]

/-- Waiting for a key reports that it waits, unless a key is held. -/
theorem outcome_awaitKey_idle {x : UInt8} (nobody : machine.keys.first? = none) :
    machine.outcome (.awaitKey x) = .awaitingKey := by
  simp only [outcome, nobody]

/-- Waiting for a key is executed if a key is held. -/
theorem outcome_awaitKey_held {x key : UInt8} (first : machine.keys.first? = some key) :
    machine.outcome (.awaitKey x) = .executed (.awaitKey x) := by
  simp only [outcome, first]

/-- Execution passes over the next instruction or not, as one change to the program counter. -/
def passIf (machine : Machine) (condition : Bool) : Machine :=
  { machine with pc := if condition then machine.pc + 2 else machine.pc }

/-- Passing over the next instruction changes the program counter alone. -/
theorem skipIf_eq_passIf (machine : Machine) (condition : Bool) :
    machine.skipIf condition = machine.passIf condition := by
  cases condition with
  | false => rfl
  | true => rfl

/-- What an instruction changes, as one change to the machine. The instructions that go one of two
ways, because they may pass over the next one or because they wait for a key, choose between values
of a component here and not between two machines, so that any other component can be read off. -/
def merged (machine : Machine) : Instruction → Machine
  | .skipIfByte x value => (machine.passIf (machine.value x == value)).next
  | .skipUnlessByte x value => (machine.passIf (machine.value x != value)).next
  | .skipIfSame x y => (machine.passIf (machine.value x == machine.value y)).next
  | .skipUnlessSame x y => (machine.passIf (machine.value x != machine.value y)).next
  | .skipIfKey x => (machine.passIf (machine.keys.held (machine.value x))).next
  | .skipUnlessKey x => (machine.passIf (!machine.keys.held (machine.value x))).next
  | .awaitKey x =>
    { machine with
      pc := if machine.keys.first?.isSome then machine.pc + 2 else machine.pc
      registers := machine.keys.first?.elim machine.registers (machine.registers.set x)
      status := if machine.keys.first?.isSome then .running else .awaitingKey x }
  | ins => machine.effect ins

/-- The effect of an instruction is one change to the machine. -/
theorem effect_eq_merged (machine : Machine) (ins : Instruction) :
    machine.effect ins = machine.merged ins := by
  cases ins with
  | skipIfByte | skipUnlessByte | skipIfSame | skipUnlessSame | skipIfKey | skipUnlessKey =>
    rw [effect, skipIf_eq_passIf]
    rfl
  | awaitKey x =>
    cases first : machine.keys.first? with
    | none =>
      rw [effect_awaitKey_idle first, merged, first]
      rfl
    | some key =>
      rw [effect_awaitKey_held first, merged, first]
      rfl
  | _ => rfl

/-- No instruction changes what belongs to the host: the keys and the shift operand. -/
theorem host_effect (machine : Machine) (ins : Instruction) :
    (machine.effect ins).keys = machine.keys ∧ (machine.effect ins).shift = machine.shift := by
  rw [effect_eq_merged]
  cases ins with
  | _ => exact ⟨rfl, rfl⟩

/-- Calls push the program counter and returns pop it; no other instruction changes the stack. -/
theorem stack_effect (machine : Machine) (ins : Instruction) :
    (machine.effect ins).stack =
      match ins with
      | .call _ => machine.stack.push machine.pc
      | .ret => machine.stack.pop
      | _ => machine.stack := by
  rw [effect_eq_merged]
  cases ins with
  | _ => rfl

/-- An instruction other than the wait for a key and a word that is none keeps the status. -/
theorem status_effect {ins : Instruction} (waits : ∀ x, ins ≠ .awaitKey x)
    (implemented : ∀ word, ins ≠ .unimplemented word) :
    (machine.effect ins).status = machine.status := by
  rw [effect_eq_merged]
  cases ins with
  | awaitKey x => exact absurd rfl (waits x)
  | unimplemented word => exact absurd rfl (implemented word)
  | _ => rfl

/-- An instruction that does not draw leaves the screen as it is. -/
theorem screen_effect {ins : Instruction} (still : ¬ins.Draws) :
    (machine.effect ins).screen = machine.screen := by
  rw [effect_eq_merged]
  cases ins with
  | clear | draw => exact absurd trivial still
  | _ => rfl

/-- An instruction that stores nothing leaves memory as it is. -/
theorem memory_effect {ins : Instruction} (idle : ¬ins.Stores) :
    (machine.effect ins).memory = machine.memory := by
  rw [effect_eq_merged]
  cases ins with
  | storeDecimal | storeRegisters => exact absurd trivial idle
  | _ => rfl

/-- Two instructions set a timer each to a register; no other instruction changes the timers. -/
theorem timers_effect (machine : Machine) (ins : Instruction) :
    (machine.effect ins).timers =
      match ins with
      | .setDelay x => { machine.timers with delay := ⟨machine.value x⟩ }
      | .setSound x => { machine.timers with sound := ⟨machine.value x⟩ }
      | _ => machine.timers := by
  rw [effect_eq_merged]
  cases ins with
  | _ => rfl

/-- After an instruction that draws the picture waits to be taken. -/
theorem dirty_effect {ins : Instruction} (draws : ins.Draws) :
    (machine.effect ins).screen.dirty = true := by
  cases ins with
  | clear | draw => rfl
  | _ => exact draws.elim

/-- The instruction that a step has to execute: the next one, or the one that waits for a key. -/
inductive AtHand (machine : Machine) : Instruction → Prop
  /-- A running machine executes the instruction at its program counter. -/
  | next {ins : Instruction} (running : machine.status = .running)
    (here : machine.current = ins) : AtHand machine ins
  /-- A waiting machine goes on waiting. -/
  | awaited {register : UInt8} (waiting : machine.status = .awaitingKey register) :
    AtHand machine (.awaitKey register)

/-- The outcome of a step and the machine that it leaves, with the reason for both. -/
inductive Stepped (machine : Machine) : Outcome → Machine → Prop
  /-- The instruction at hand is executed, and the machine runs on. -/
  | executed {ins : Instruction} (hand : machine.AtHand ins)
    (running : (machine.effect ins).status = .running) :
    Stepped machine (.executed ins) (machine.effect ins)
  /-- No key is held for the instruction that waits for one. -/
  | waiting {register : UInt8} (hand : machine.AtHand (.awaitKey register))
    (nobody : machine.keys.first? = none) :
    Stepped machine .awaitingKey { machine with status := .awaitingKey register }
  /-- The next word is no instruction. -/
  | faulted {word : UInt16} (running : machine.status = .running)
    (here : machine.current = .unimplemented word) :
    Stepped machine (.faulted ⟨word, machine.pc⟩)
      { machine with status := .faulted ⟨word, machine.pc⟩ }
  /-- A machine that met a fault stays as it is. -/
  | halted {fault : Fault} (stopped : machine.status = .faulted fault) :
    Stepped machine (.faulted fault) machine

/-- A step of a waiting machine executes the instruction that waits. -/
theorem step_awaiting {register : UInt8} (waiting : machine.status = .awaitingKey register) :
    machine.step.outcome = machine.outcome (.awaitKey register) ∧
      machine.step.machine = machine.effect (.awaitKey register) := by
  have resumed : machine.step = machine.resume register := by rw [step, waiting]
  rw [resumed]
  cases first : machine.keys.first? with
  | none =>
    have same : machine = { machine with status := .awaitingKey register } := by rw [← waiting]
    rw [effect_awaitKey_idle first, outcome_awaitKey_idle first, ← same]
    simp only [resume, first, and_self]
  | some key =>
    rw [effect_awaitKey_held first, outcome_awaitKey_held first]
    simp only [resume, first, and_self]

/-- The instruction at hand is executed, unless it is none or waits for a key in vain. -/
theorem stepped_effect {ins : Instruction} (hand : machine.AtHand ins) :
    machine.Stepped (machine.outcome ins) (machine.effect ins) := by
  by_cases waits : ∃ register, ins = .awaitKey register
  · obtain ⟨register, rfl⟩ := waits
    cases first : machine.keys.first? with
    | none =>
      rw [effect_awaitKey_idle first, outcome_awaitKey_idle first]
      exact .waiting hand first
    | some key =>
      rw [outcome_awaitKey_held first]
      refine .executed hand ?_
      rw [effect_awaitKey_held first]
      rfl
  · cases hand with
    | awaited waiting => exact absurd ⟨_, rfl⟩ waits
    | next running here =>
      cases ins with
      | unimplemented word => exact .faulted running here
      | awaitKey register => exact absurd ⟨register, rfl⟩ waits
      | _ =>
        refine .executed (.next running here) ((status_effect ?_ ?_).trans running)
        · intro x same
          cases same
        · intro word same
          cases same

/-- A step executes the instruction at hand. -/
theorem step_of_hand {ins : Instruction} (hand : machine.AtHand ins) :
    machine.step.outcome = machine.outcome ins ∧ machine.step.machine = machine.effect ins := by
  cases hand with
  | awaited waiting => exact step_awaiting waiting
  | next running here =>
    have turn : machine.step = machine.execute machine.current := by rw [step, running]
    rw [turn, here]
    exact ⟨rfl, rfl⟩

/-- A machine that met a fault stays as it is. -/
theorem step_of_faulted {fault : Fault} (stopped : machine.status = .faulted fault) :
    machine.step = ⟨.faulted fault, machine, []⟩ := by
  rw [step, stopped]

/-- A machine that met no fault has an instruction at hand. -/
theorem hand_or_faulted (machine : Machine) :
    (∃ ins, machine.AtHand ins) ∨ ∃ fault, machine.status = .faulted fault := by
  cases status : machine.status with
  | running => exact .inl ⟨_, .next status rfl⟩
  | awaitingKey register => exact .inl ⟨_, .awaited status⟩
  | faulted fault => exact .inr ⟨fault, rfl⟩

/-- What a step does. -/
theorem step_cases (machine : Machine) :
    machine.Stepped machine.step.outcome machine.step.machine := by
  rcases machine.hand_or_faulted with ⟨ins, hand⟩ | ⟨fault, stopped⟩
  · obtain ⟨outcomes, machines⟩ := step_of_hand hand
    rw [outcomes, machines]
    exact stepped_effect hand
  · rw [step_of_faulted stopped]
    exact .halted stopped

/-- Nor does a step change what belongs to the host. -/
theorem host_step (machine : Machine) :
    machine.step.machine.keys = machine.keys ∧ machine.step.machine.shift = machine.shift := by
  rcases machine.hand_or_faulted with ⟨ins, hand⟩ | ⟨fault, stopped⟩
  · rw [(step_of_hand hand).2]
    exact machine.host_effect ins
  · rw [step_of_faulted stopped]
    exact ⟨rfl, rfl⟩

/-- A step that executes an instruction leaves the effect of that instruction. -/
theorem machine_of_executed {ins : Instruction} (done : machine.step.outcome.executed? = some ins) :
    machine.step.machine = machine.effect ins := by
  have stepped := machine.step_cases
  generalize machine.step.outcome = outcome, machine.step.machine = after at stepped done
  cases stepped with
  | executed hand running => rw [Option.some.inj done]
  | waiting hand nobody => cases done
  | faulted running here => cases done
  | halted stopped => cases done

/-- A step that executes nothing changes the status alone. -/
theorem machine_of_idle (idle : machine.step.outcome.executed? = none) :
    machine.step.machine = { machine with status := machine.step.machine.status } := by
  have stepped := machine.step_cases
  generalize machine.step.outcome = outcome, machine.step.machine = after at stepped idle
  cases stepped with
  | executed hand running => cases idle
  | waiting hand nobody => rfl
  | faulted running here => rfl
  | halted stopped => rfl

/-- What programs depend on is as before: at most timers, keys, the shift operand, the random
source and the mark of the picture differ. -/
structure Undisturbed (before after : Machine) : Prop where
  /-- Execution goes on at the same address. -/
  pc : after.pc = before.pc
  /-- The index is the same. -/
  index : after.index = before.index
  /-- The registers are the same. -/
  registers : after.registers = before.registers
  /-- The stack is the same. -/
  stack : after.stack = before.stack
  /-- The machine can go on as before. -/
  status : after.status = before.status
  /-- Memory is the same. -/
  memory : after.memory = before.memory
  /-- The picture is the same. -/
  pixels : after.screen.pixels = before.screen.pixels

/-- A machine to which nothing happens is undisturbed. -/
theorem Undisturbed.refl (machine : Machine) : machine.Undisturbed machine :=
  ⟨rfl, rfl, rfl, rfl, rfl, rfl, rfl⟩

/-- A machine that is left undisturbed twice is undisturbed. -/
theorem Undisturbed.trans {before between after : Machine} (first : before.Undisturbed between)
    (second : between.Undisturbed after) : before.Undisturbed after where
  pc := second.pc.trans first.pc
  index := second.index.trans first.index
  registers := second.registers.trans first.registers
  stack := second.stack.trans first.stack
  status := second.status.trans first.status
  memory := second.memory.trans first.memory
  pixels := second.pixels.trans first.pixels

/-- What programs depend on is as before, except whether the machine can go on. -/
structure Unmoved (before after : Machine) : Prop where
  /-- Execution goes on at the same address. -/
  pc : after.pc = before.pc
  /-- The index is the same. -/
  index : after.index = before.index
  /-- The registers are the same. -/
  registers : after.registers = before.registers
  /-- The stack is the same. -/
  stack : after.stack = before.stack
  /-- Memory is the same. -/
  memory : after.memory = before.memory
  /-- The picture is the same. -/
  pixels : after.screen.pixels = before.screen.pixels

/-- An undisturbed machine is unmoved. -/
theorem Undisturbed.unmoved {after : Machine} (same : machine.Undisturbed after) :
    machine.Unmoved after :=
  ⟨same.pc, same.index, same.registers, same.stack, same.memory, same.pixels⟩

/-- A machine that is left unmoved twice is unmoved. -/
theorem Unmoved.trans {before between after : Machine} (first : before.Unmoved between)
    (second : between.Unmoved after) : before.Unmoved after where
  pc := second.pc.trans first.pc
  index := second.index.trans first.index
  registers := second.registers.trans first.registers
  stack := second.stack.trans first.stack
  memory := second.memory.trans first.memory
  pixels := second.pixels.trans first.pixels

/-- A machine whose status alone changes is unmoved. -/
theorem unmoved_of_status (machine : Machine) (status : Status) :
    machine.Unmoved { machine with status } :=
  ⟨rfl, rfl, rfl, rfl, rfl, rfl⟩

/-- An undisturbed machine has the same instruction to execute next. -/
theorem Undisturbed.current {before after : Machine} (same : before.Undisturbed after) :
    after.current = before.current := by
  rw [Machine.current, Machine.current, fetch, fetch, same.pc, same.memory]

end Machine

namespace Operation

/-- What a run does to its machine at a look: it ticks, latches the keys, steps and takes the
picture. -/
def Paced : Operation → Prop
  | .step | .tick | .latch _ | .takeFrame => True
  | _ => False

/-- What a host does between two steps of a program. -/
def Between : Operation → Prop
  | .step | .execute _ | .load _ | .reset => False
  | _ => True

/-- An operation that can execute an instruction. -/
def Executes : Operation → Prop
  | .step | .execute _ => True
  | _ => False

/-- A stepwise operation that keeps the program is a step, or happens between two steps. -/
theorem step_or_between {operation : Operation} (stepwise : operation.Stepwise)
    (keeps : operation.KeepsProgram) : operation = .step ∨ operation.Between := by
  cases operation with
  | step => exact .inl rfl
  | execute => exact stepwise.elim
  | load | reset => exact keeps.elim
  | _ => exact .inr trivial

/-- What a run does executes nothing directly. -/
theorem Paced.stepwise {operation : Operation} (paced : operation.Paced) : operation.Stepwise := by
  cases operation with
  | execute => exact paced.elim
  | _ => trivial

/-- What a run does neither loads a program nor resets the machine. -/
theorem Paced.keepsProgram {operation : Operation} (paced : operation.Paced) :
    operation.KeepsProgram := by
  cases operation with
  | load | reset => exact paced.elim
  | _ => trivial

/-- What a run does is a step, or happens between two steps. -/
theorem Paced.step_or_between {operation : Operation} (paced : operation.Paced) :
    operation = .step ∨ operation.Between :=
  Operation.step_or_between paced.stepwise paced.keepsProgram

end Operation

namespace Machine

variable {machine : Machine} {operation : Operation}

/-- What every operation of a history keeps, the history keeps. -/
theorem performAll_keeps (Kept : Machine → Prop) {history : List Operation} (begun : Kept machine)
    (each : ∀ machine, Kept machine → ∀ operation ∈ history,
      Kept (machine.perform operation).2) : Kept (machine.performAll history) :=
  List.foldlRecOn history _ begun each

/-- What a host does between two steps does not disturb the machine. -/
theorem perform_between (machine : Machine) (between : operation.Between) :
    machine.Undisturbed (machine.perform operation).2 := by
  cases operation with
  | step | execute | load | reset => exact between.elim
  | _ => exact ⟨rfl, rfl, rfl, rfl, rfl, rfl, rfl⟩

/-- What a run does leaves the choice of shift operand to the host. -/
theorem shift_perform (machine : Machine) (paced : operation.Paced) :
    (machine.perform operation).2.shift = machine.shift := by
  cases operation with
  | step => exact machine.host_step.2
  | tick | latch | takeFrame => rfl
  | _ => exact paced.elim

/-- What loading a program adds to a reset does not depend on the machine. -/
theorem uniform_load (program : List UInt8) :
    ∃ refusal memory notes, ∀ machine : Machine,
      machine.load program = ⟨refusal, { machine.reset with memory }, notes⟩ := by
  unfold load insert
  cases Memory.refusal? program with
  | none => exact ⟨none, Memory.initial.place program, _, fun _ => rfl⟩
  | some failure => exact ⟨some failure, Memory.initial, [], fun _ => rfl⟩

/-- Loading a program resets the machine and then changes memory alone. -/
theorem machine_load (machine : Machine) (program : List UInt8) :
    ∃ memory, (machine.load program).machine = { machine.reset with memory } := by
  obtain ⟨refusal, memory, notes, loaded⟩ := uniform_load program
  exact ⟨memory, congrArg Loading.machine (loaded machine)⟩

/-- A reset and a loading leave a machine that is new except for its memory. -/
theorem perform_of_restart (machine : Machine) (restarts : ¬operation.KeepsProgram) :
    ∃ memory, (machine.perform operation).2 = { machine.reset with memory } := by
  cases operation with
  | load program => exact machine.machine_load program
  | reset => exact ⟨machine.reset.memory, rfl⟩
  | _ => exact absurd trivial restarts

/-- A machine that has loaded a program, or has refused it, is running. -/
theorem status_load (machine : Machine) (program : List UInt8) :
    (machine.load program).machine.status = .running := by
  obtain ⟨memory, loaded⟩ := machine.machine_load program
  rw [loaded]
  rfl

/-- What a host does between two steps executes nothing. -/
theorem executed?_between (machine : Machine) (between : operation.Between) :
    (machine.perform operation).1.executed? = none := by
  cases operation with
  | step | execute | load | reset => exact between.elim
  | _ => rfl

/-- An instruction that is not executed changes the status alone. -/
theorem effect_of_idle {ins : Instruction} (idle : (machine.outcome ins).executed? = none) :
    machine.effect ins = { machine with status := (machine.effect ins).status } := by
  cases ins with
  | unimplemented word => rfl
  | awaitKey x =>
    cases first : machine.keys.first? with
    | none => rw [effect_awaitKey_idle first]
    | some key =>
      rw [outcome_awaitKey_held first] at idle
      cases idle
  | _ => cases idle

/-- The outcome of an instruction tells of no other instruction. -/
theorem eq_of_executed {given ins : Instruction}
    (done : (machine.outcome given).executed? = some ins) : given = ins := by
  cases given with
  | unimplemented word => cases done
  | awaitKey x =>
    cases first : machine.keys.first? with
    | none =>
      rw [outcome_awaitKey_idle first] at done
      cases done
    | some key =>
      rw [outcome_awaitKey_held first] at done
      exact Option.some.inj done
  | _ => exact Option.some.inj done

/-- An operation that executes an instruction leaves the effect of that instruction. -/
theorem perform_of_executed {ins : Instruction}
    (done : (machine.perform operation).1.executed? = some ins) :
    (machine.perform operation).2 = machine.effect ins := by
  cases operation with
  | step => exact machine_of_executed done
  | execute given => exact congrArg machine.effect (eq_of_executed done)
  | _ => cases done

/-- An operation that can execute an instruction, and executes none, changes the status alone. -/
theorem perform_of_idle (idle : (machine.perform operation).1.executed? = none)
    (executes : operation.Executes) :
    (machine.perform operation).2 =
      { machine with status := (machine.perform operation).2.status } := by
  cases operation with
  | step => exact machine_of_idle idle
  | execute ins => exact effect_of_idle idle
  | _ => exact executes.elim

/-- An operation that keeps the program and executes nothing leaves the machine unmoved. -/
theorem unmoved_perform {operation : Operation} (keeps : operation.KeepsProgram)
    (idle : (machine.perform operation).1.executed? = none) :
    machine.Unmoved (machine.perform operation).2 := by
  cases operation with
  | step | execute =>
    rw [perform_of_idle idle trivial]
    exact machine.unmoved_of_status _
  | load | reset => exact keeps.elim
  | _ => exact Undisturbed.unmoved (machine.perform_between trivial)

/-- An operation that keeps the program leaves memory as it is, unless it executes an instruction
that stores something. -/
theorem memory_perform (keeps : operation.KeepsProgram)
    (idle : ∀ ins, (machine.perform operation).1.executed? = some ins → ¬ins.Stores) :
    (machine.perform operation).2.memory = machine.memory := by
  cases done : (machine.perform operation).1.executed? with
  | some ins =>
    rw [perform_of_executed done]
    exact memory_effect (idle ins done)
  | none => exact (unmoved_perform keeps done).memory

/-- A history that keeps the program and stores nothing leaves memory as it is. -/
theorem memory_performAll {history : List Operation}
    (keeps : ∀ operation ∈ history, operation.KeepsProgram)
    (idle : ∀ ins ∈ machine.executed history, ¬ins.Stores) :
    (machine.performAll history).memory = machine.memory := by
  induction history generalizing machine with
  | nil => rfl
  | cons operation later inductionHypothesis =>
    obtain ⟨keepsFirst, keepsRest⟩ := List.forall_mem_cons.1 keeps
    have first : (machine.perform operation).2.memory = machine.memory :=
      memory_perform keepsFirst fun ins done =>
        idle ins (List.mem_append_left _ (Option.mem_toList.2 done))
    have rest := fun ins member => idle ins (List.mem_append_right _ member)
    rw [performAll_cons, inductionHypothesis keepsRest rest, first]

end Machine

end Chip8
