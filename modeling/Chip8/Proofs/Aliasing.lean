import Chip8.Proofs.Blocks
import Chip8.Proofs.Effects
import Chip8.Proofs.Lockstep

/-!
# The high bits of addresses do not show

The program counter, the index and the addresses on the stack have sixteen bits, and memory looks
at the low twelve. Machines whose addresses differ by multiples of the size of memory therefore
fetch the same instructions, read and write the same cells and answer a host alike, for as long as
neither adds a register to the index (`high_bits_unobservable`). That one instruction tells whether
the sum passed the end of memory, which depends on all bits of the index, and it tells so in VF
alone.
-/
namespace Chip8

namespace Memory

/-- Two addresses name the same cell: they differ by a multiple of the size of memory. -/
def Aliases (left right : UInt16) : Prop := left.toNat % 4096 = right.toNat % 4096

variable {left right : UInt16}

/-- Naming the same cell is an equality of remainders. -/
instance : Decidable (Aliases left right) :=
  inferInstanceAs (Decidable (left.toNat % 4096 = right.toNat % 4096))

/-- An address is an alias of itself. -/
theorem Aliases.refl (address : UInt16) : Aliases address address := Eq.refl _

/-- Aliases name one cell. -/
theorem Aliases.slot_eq (aliases : Aliases left right) : slot left = slot right :=
  Fin.ext aliases

/-- Aliases stay aliases when both move by the same distance, also past the last address. -/
theorem Aliases.add (aliases : Aliases left right) (distance : UInt16) :
    Aliases (left + distance) (right + distance) := by
  have same : left.toNat % 4096 = right.toNat % 4096 := aliases
  show (left + distance).toNat % 4096 = (right + distance).toNat % 4096
  rw [UInt16.toNat_add, UInt16.toNat_add]
  omega

/-- Aliases read the same byte. -/
theorem Aliases.get_eq (aliases : Aliases left right) (memory : Memory) :
    memory.get left = memory.get right := by
  show memory.cells.get (slot left) = memory.cells.get (slot right)
  rw [aliases.slot_eq]

/-- Aliases write the same byte. -/
theorem Aliases.set_eq (aliases : Aliases left right) (memory : Memory) (byte : UInt8) :
    memory.set left byte = memory.set right byte := by
  refine ext_memory fun cell => ?_
  rw [cells_set, cells_set, aliases.slot_eq]

/-- The same bytes are read from aliases on. -/
theorem Aliases.read_eq (aliases : Aliases left right) (memory : Memory) (count : Nat) :
    memory.read left count = memory.read right count := by
  induction count generalizing left right with
  | zero => rfl
  | succ count inductionHypothesis =>
    have rest := inductionHypothesis (aliases.add 1)
    rw [read, read, aliases.get_eq, rest]

/-- The same cells are written from aliases on. -/
theorem Aliases.write_eq (aliases : Aliases left right) (memory : Memory) (bytes : List UInt8) :
    memory.write left bytes = memory.write right bytes := by
  induction bytes generalizing memory left right with
  | nil => rfl
  | cons byte rest inductionHypothesis =>
    rw [write, write, aliases.set_eq, inductionHypothesis (aliases.add 1)]

/-- Registers are stored in the same cells from aliases on. -/
theorem Aliases.storeFrom_eq (aliases : Aliases left right) (memory : Memory) (v : Registers)
    (x : UInt8) : memory.storeFrom v left x = memory.storeFrom v right x :=
  aliases.write_eq memory _

/-- Registers are loaded with the same bytes from aliases on. -/
theorem Aliases.loadFrom_eq (aliases : Aliases left right) (memory : Memory) (v : Registers)
    (x : UInt8) : v.loadFrom memory left x = v.loadFrom memory right x := by
  have bytes : ∀ k : Nat, memory.get (left + UInt16.ofNat k) = memory.get (right + UInt16.ofNat k) :=
    fun k => (aliases.add (UInt16.ofNat k)).get_eq memory
  simp only [Registers.loadFrom, bytes]

end Memory

open Memory (Aliases)

/-- The same status, but for the address that a fault records. -/
inductive Status.Alike : Status → Status → Prop
  /-- Both are running. -/
  | running : Alike .running .running
  /-- Both wait for the same register. -/
  | awaitingKey (register : UInt8) : Alike (.awaitingKey register) (.awaitingKey register)
  /-- Both met the same word, at aliases. -/
  | faulted {word left right : UInt16} (aliases : Aliases left right) :
    Alike (.faulted ⟨word, left⟩) (.faulted ⟨word, right⟩)

/-- The same outcome, but for the address that a fault records. -/
inductive Outcome.Alike : Outcome → Outcome → Prop
  /-- Both executed the same instruction. -/
  | executed (ins : Instruction) : Alike (.executed ins) (.executed ins)
  /-- Both wait for a key. -/
  | awaitingKey : Alike .awaitingKey .awaitingKey
  /-- Both met the same word, at aliases. -/
  | faulted {word left right : UInt16} (aliases : Aliases left right) :
    Alike (.faulted ⟨word, left⟩) (.faulted ⟨word, right⟩)

/-- The same answer, but for the address that a fault records. -/
inductive Reply.Alike : Reply → Reply → Prop
  /-- Answers that are the same. -/
  | same (reply : Reply) : Alike reply reply
  /-- Outcomes that are alike. -/
  | outcome {left right : Outcome} (alike : left.Alike right) :
    Alike (.outcome left) (.outcome right)

/-- Registers that agree but for VF. -/
def Registers.SameButFlag (left right : Registers) : Prop :=
  ∀ cell : Fin 16, cell.val ≠ 15 → left.cells.get cell = right.cells.get cell

namespace Machine

/-- Two machines that agree on everything but the high bits of their addresses, and on their
registers as far as is asked for. -/
structure Displaced (Same : Registers → Registers → Prop) (left right : Machine) : Prop where
  /-- They go on at aliases. -/
  pc : Aliases left.pc right.pc
  /-- Their indices are aliases. -/
  index : Aliases left.index right.index
  /-- The slots of their stacks hold aliases. -/
  slots : ∀ slot : Fin 16, Aliases (left.stack.slots.get slot) (right.stack.slots.get slot)
  /-- Their stacks are filled next at the same slot. -/
  pointer : left.stack.pointer = right.stack.pointer
  /-- They can go on in the same way. -/
  status : left.status.Alike right.status
  /-- Their registers agree as far as is asked for. -/
  registers : Same left.registers right.registers
  /-- They have the same timers. -/
  timers : left.timers = right.timers
  /-- They have latched the same keys. -/
  keys : left.keys = right.keys
  /-- Their shifts read the same register. -/
  shift : left.shift = right.shift
  /-- They draw the same random bytes. -/
  random : left.random = right.random
  /-- They have the same memory. -/
  memory : left.memory = right.memory
  /-- They show the same picture and mark it alike. -/
  screen : left.screen = right.screen

/-- Two machines that agree on everything but the high bits of their addresses. -/
abbrev Aliased (left right : Machine) : Prop := Displaced Eq left right

/-- Two machines that agree on everything but the high bits of their addresses and VF. -/
abbrev AliasedButFlag (left right : Machine) : Prop := Displaced Registers.SameButFlag left right

variable {left right : Machine}

/-- Only the addresses and the status of aliased machines differ. -/
theorem Aliased.exists_moved (aliased : left.Aliased right) :
    ∃ pc index stack status, right = { left with pc, index, stack, status } := by
  refine ⟨right.pc, right.index, right.stack, right.status, ?_⟩
  rw [aliased.registers, aliased.timers, aliased.keys, aliased.shift, aliased.random,
    aliased.memory, aliased.screen]

/-- A machine is aliased to itself. -/
theorem Aliased.refl (machine : Machine) : machine.Aliased machine where
  pc := .refl _
  index := .refl _
  slots _ := .refl _
  pointer := rfl
  status := by
    cases machine.status with
    | running => exact .running
    | awaitingKey register => exact .awaitingKey register
    | faulted fault => exact .faulted (.refl fault.address)
  registers := rfl
  timers := rfl
  keys := rfl
  shift := rfl
  random := rfl
  memory := rfl
  screen := rfl

/-- Aliased machines fetch the same word. -/
theorem Aliased.current_eq (aliased : left.Aliased right) : left.current = right.current := by
  have high := aliased.pc.get_eq right.memory
  have low := (aliased.pc.add 1).get_eq right.memory
  rw [current, current, fetch, fetch, aliased.memory, high, low]

/-- Aliased machines have the same instruction at hand. -/
theorem Aliased.atHand {ins : Instruction} (aliased : left.Aliased right)
    (hand : left.AtHand ins) : right.AtHand ins := by
  have status := aliased.status
  cases hand with
  | next running here =>
    rw [running] at status
    generalize same : right.status = other at status
    cases status with
    | running => exact .next same (aliased.current_eq ▸ here)
  | awaited waiting =>
    rw [waiting] at status
    generalize same : right.status = other at status
    cases status with
    | awaitingKey register => exact .awaited same

/-- Aliased machines move on to aliases. -/
theorem Aliased.next (aliased : left.Aliased right) : left.next.Aliased right.next :=
  { aliased with pc := aliased.pc.add 2 }

/-- Aliased machines pass over the next instruction under the same condition. -/
theorem Aliased.skipIf (aliased : left.Aliased right) (condition : Bool) :
    (left.skipIf condition).Aliased (right.skipIf condition) := by
  cases condition with
  | false => exact aliased
  | true => exact aliased.next

/-- The addresses that aliased machines return to are aliases. -/
theorem Aliased.top (aliased : left.Aliased right) : Aliases left.stack.top right.stack.top := by
  have slots := aliased.slots (left.stack.pointer - 1)
  have pointer := aliased.pointer
  show Aliases (left.stack.slots.get (left.stack.pointer - 1))
    (right.stack.slots.get (right.stack.pointer - 1))
  rwa [← pointer]

/-- After a call the slots of aliased machines hold aliases. -/
theorem Aliased.slots_push (aliased : left.Aliased right) (slot : Fin 16) :
    Aliases ((left.stack.push left.pc).slots.get slot)
      ((right.stack.push right.pc).slots.get slot) := by
  have pushed : ∀ machine : Machine, (machine.stack.push machine.pc).slots.get slot =
      if machine.stack.pointer = slot then machine.pc else machine.stack.slots.get slot :=
    fun machine => get_set_cell machine.stack.slots machine.stack.pointer slot machine.pc
  rw [pushed left, pushed right, aliased.pointer]
  split
  · exact aliased.pc
  · exact aliased.slots slot

/-- Aliased machines draw the same sprite. -/
theorem Aliased.readIndexed_eq (aliased : left.Aliased right) (count : Nat) :
    left.readIndexed count = right.readIndexed count := by
  rw [readIndexed, readIndexed, aliased.memory, aliased.index.read_eq]

/-- Every instruction but the one that adds a register to the index leaves aliased machines
aliased. -/
theorem Aliased.effect {ins : Instruction} (aliased : left.Aliased right)
    (plain : ∀ x, ins ≠ .addIndex x) : (left.effect ins).Aliased (right.effect ins) := by
  have sprite := aliased.readIndexed_eq
  have bytes := aliased.index.write_eq left.memory
  have stored := aliased.index.storeFrom_eq left.memory left.registers
  have loaded := aliased.index.loadFrom_eq left.memory left.registers
  have top := aliased.top
  have pushed := aliased.slots_push
  have moved := aliased.pc.add 2
  obtain ⟨pc, index, stack, status, rfl⟩ := aliased.exists_moved
  cases ins with
  | addIndex x => exact absurd rfl (plain x)
  | jump target => exact { aliased with pc := .refl target }
  | jumpOffset base => exact { aliased with pc := .refl _ }
  | setIndex target => exact { aliased with pc := moved, index := .refl target }
  | pointGlyph x => exact { aliased with pc := moved, index := .refl _ }
  | ret =>
    have pointer : left.stack.pointer - 1 = stack.pointer - 1 := by rw [aliased.pointer]
    exact { aliased with pc := top.add 2, pointer }
  | call target =>
    have pointer : left.stack.pointer + 1 = stack.pointer + 1 := by rw [aliased.pointer]
    exact { aliased with pc := .refl target, slots := pushed, pointer }
  | skipIfByte | skipUnlessByte | skipIfSame | skipUnlessSame | skipIfKey | skipUnlessKey =>
    exact (aliased.skipIf _).next
  | draw x y height =>
    rw [Machine.effect, Machine.effect, drawSprite, drawSprite, ← sprite]
    exact { aliased with pc := moved, registers := rfl, screen := rfl }
  | awaitKey x =>
    have keys : ({ left with pc, index, stack, status } : Machine).keys = left.keys := rfl
    cases first : left.keys.first? with
    | none =>
      rw [effect_awaitKey_idle first, effect_awaitKey_idle (keys ▸ first)]
      exact { aliased with status := .awaitingKey x }
    | some key =>
      rw [effect_awaitKey_held first, effect_awaitKey_held (keys ▸ first)]
      exact { aliased with pc := moved, registers := rfl, status := .running }
  | storeDecimal x => exact { aliased with pc := moved, memory := bytes _ }
  | storeRegisters x =>
    exact { aliased with pc := moved, index := aliased.index.add _, memory := stored x }
  | loadRegisters x =>
    exact { aliased with pc := moved, index := aliased.index.add _, registers := loaded x }
  | unimplemented word => exact { aliased with status := .faulted aliased.pc }
  | _ =>
    exact { aliased with
      pc := moved, registers := rfl, timers := rfl, random := rfl, screen := rfl }

/-- Adding a register to the index leaves aliased machines aliased, but for VF. -/
theorem Aliased.effect_addIndex (aliased : left.Aliased right) (x : UInt8) :
    (left.effect (.addIndex x)).AliasedButFlag (right.effect (.addIndex x)) := by
  have moved := aliased.pc.add 2
  obtain ⟨pc, index, stack, status, rfl⟩ := aliased.exists_moved
  have others : ∀ flag other : Bool,
      (left.registers.setFlag flag).SameButFlag (left.registers.setFlag other) := by
    intro flag other cell apart
    have elsewhere : ¬Registers.flagRegister.toNat % 16 = cell.val := fun same => apart same.symm
    rw [Registers.setFlag, Registers.setFlag, Registers.cells_set, Registers.cells_set,
      if_neg elsewhere, if_neg elsewhere]
  exact { aliased with pc := moved, index := aliased.index.add _, registers := others _ _ }

/-- Aliased machines answer every instruction alike. -/
theorem Aliased.outcome (aliased : left.Aliased right) (ins : Instruction) :
    (left.outcome ins).Alike (right.outcome ins) := by
  cases ins with
  | awaitKey x =>
    have keys := aliased.keys
    cases first : left.keys.first? with
    | none =>
      simp only [Machine.outcome, ← keys, first]
      exact .awaitingKey
    | some key =>
      simp only [Machine.outcome, ← keys, first]
      exact .executed _
  | unimplemented word => exact .faulted aliased.pc
  | _ => exact .executed _

/-- Aliased machines answer a step alike, and stay aliased unless the step adds a register to the
index. -/
theorem Aliased.step (aliased : left.Aliased right) :
    left.step.outcome.Alike right.step.outcome ∧
      ((∀ x, left.step.outcome.executed? ≠ some (.addIndex x)) →
        left.step.machine.Aliased right.step.machine) := by
  rcases left.hand_or_faulted with ⟨ins, hand⟩ | ⟨fault, stopped⟩
  · obtain ⟨outcomes, machines⟩ := step_of_hand hand
    obtain ⟨otherOutcomes, otherMachines⟩ := step_of_hand (aliased.atHand hand)
    rw [outcomes, machines, otherOutcomes, otherMachines]
    refine ⟨aliased.outcome ins, fun plain => aliased.effect fun x same => ?_⟩
    rw [same] at plain
    exact plain x rfl
  · have status := aliased.status
    rw [stopped] at status
    generalize same : right.status = other at status
    cases status with
    | faulted aliases =>
      rw [step_of_faulted stopped, step_of_faulted same]
      exact ⟨.faulted aliases, fun _ => aliased⟩

/-- A step that adds a register to the index does so on both of two aliased machines, and leaves
them aliased but for VF. -/
theorem Aliased.step_addIndex {x : UInt8} (aliased : left.Aliased right)
    (done : left.step.outcome = .executed (.addIndex x)) :
    right.step.outcome = .executed (.addIndex x) ∧
      left.step.machine.AliasedButFlag right.step.machine := by
  have alike := aliased.step.1
  rw [done] at alike
  generalize same : right.step.outcome = other at alike
  cases alike with
  | executed ins =>
    have leftDone : left.step.outcome.executed? = some (.addIndex x) := by rw [done]; rfl
    have rightDone : right.step.outcome.executed? = some (.addIndex x) := by rw [same]; rfl
    rw [machine_of_executed leftDone, machine_of_executed rightDone]
    exact ⟨rfl, aliased.effect_addIndex x⟩

/-- Aliased machines answer every operation alike, unless it executes an instruction directly, and
stay aliased unless it adds a register to the index. -/
theorem Aliased.perform {operation : Operation} (aliased : left.Aliased right)
    (stepwise : operation.Stepwise)
    (plain : ∀ x, (left.perform operation).1.executed? ≠ some (.addIndex x)) :
    (left.perform operation).1.Alike (right.perform operation).1 ∧
      (left.perform operation).2.Aliased (right.perform operation).2 := by
  cases operation with
  | step =>
    obtain ⟨alike, kept⟩ := aliased.step
    exact ⟨.outcome alike, kept plain⟩
  | execute => exact stepwise.elim
  | load program =>
    have reset : left.reset = right.reset := by
      rw [Machine.reset, Machine.reset, aliased.shift, aliased.random]
    rw [Machine.perform, Machine.perform, Machine.load, Machine.load, reset]
    exact ⟨.same _, .refl _⟩
  | reset =>
    have reset : left.reset = right.reset := by
      rw [Machine.reset, Machine.reset, aliased.shift, aliased.random]
    rw [Machine.perform, Machine.perform, reset]
    exact ⟨.same _, .refl _⟩
  | takeFrame =>
    obtain ⟨pc, index, stack, status, rfl⟩ := aliased.exists_moved
    exact ⟨.same _, { aliased with screen := rfl }⟩
  | _ =>
    obtain ⟨pc, index, stack, status, rfl⟩ := aliased.exists_moved
    exact ⟨.same _, { aliased with timers := rfl, keys := rfl, shift := rfl, random := rfl }⟩

open Operation (replies)

/-- **The high bits of addresses do not show.** Let two machines agree on everything but the high
bits of their addresses, and perform the same history of steps, loads, resets and what a host does
in between. As long as no register is added to the index, they answer every operation alike and
still agree on everything but the high bits of their addresses. If the next step then adds a
register to the index, it does so on both, and afterwards they may differ in VF besides. -/
theorem high_bits_unobservable {history : List Operation} (aliased : left.Aliased right)
    (stepwise : ∀ operation ∈ history, operation.Stepwise)
    (plain : ∀ x, .addIndex x ∉ left.executed history) :
    List.Forall₂ Reply.Alike (replies Machine.perform left history)
        (replies Machine.perform right history) ∧
      (left.performAll history).Aliased (right.performAll history) ∧
      ∀ x, (left.performAll history).step.outcome = .executed (.addIndex x) →
        (right.performAll history).step.outcome = .executed (.addIndex x) ∧
          (left.performAll history).step.machine.AliasedButFlag
            (right.performAll history).step.machine := by
  have allowed : Operation.Along Machine.perform
      (fun machine operation => operation.Stepwise ∧
        ∀ ins, (machine.perform operation).1.executed? = some ins → ∀ x, ins ≠ .addIndex x)
      left history :=
    Operation.along_of_executed stepwise fun ins member x same => plain x (same ▸ member)
  have square : ∀ (left right : Machine) (operation : Operation), left.Aliased right →
      (operation.Stepwise ∧
        ∀ ins, (left.perform operation).1.executed? = some ins → ∀ x, ins ≠ .addIndex x) →
      (left.perform operation).1.Alike (right.perform operation).1 ∧
        (left.perform operation).2.Aliased (right.perform operation).2 := by
    intro left right operation aliased allowed
    exact aliased.perform allowed.1 fun x done => allowed.2 (.addIndex x) done x rfl
  obtain ⟨answered, final⟩ := Operation.lockstep square aliased allowed
  exact ⟨answered, final, fun x done => Aliased.step_addIndex final done⟩

/-- A machine whose program sets V0 and adds it to the index. -/
def near : Machine := (initial.load [0x60, 0x05, 0xF0, 0x1E]).machine

/-- The same machine with program counter and index one memory further. -/
def far : Machine := { near with pc := 0x1200, index := 0x1000 }

/-- The two machines cannot be told apart until they add V0 to the index, and then by VF alone. -/
theorem near_far_unobservable :
    near.Aliased far ∧
      List.Forall₂ Reply.Alike (replies Machine.perform near [.step])
        (replies Machine.perform far [.step]) ∧
      (near.performAll [.step]).Aliased (far.performAll [.step]) ∧
      (far.performAll [.step]).step.outcome = .executed (.addIndex 0) ∧
      (near.performAll [.step]).step.machine.AliasedButFlag
        (far.performAll [.step]).step.machine ∧
      (near.performAll [.step]).step.machine.registers.get 0xF = 0 ∧
      (far.performAll [.step]).step.machine.registers.get 0xF = 1 := by
  have pc : Aliases near.pc far.pc := by decide +kernel
  have index : Aliases near.index far.index := by decide +kernel
  have aliased : near.Aliased far := { Aliased.refl near with pc, index }
  have executed : near.executed [.step] = [.setByte 0 5] := by decide +kernel
  have plain : ∀ x, .addIndex x ∉ near.executed [.step] := by
    intro x member
    rw [executed] at member
    simp at member
  have adds : (near.performAll [.step]).step.outcome = .executed (.addIndex 0) := by
    decide +kernel
  obtain ⟨answered, kept, added⟩ := high_bits_unobservable aliased (by decide) plain
  obtain ⟨addsToo, left⟩ := added 0 adds
  exact ⟨aliased, answered, kept, addsToo, left, by decide +kernel, by decide +kernel⟩

end Machine

end Chip8
