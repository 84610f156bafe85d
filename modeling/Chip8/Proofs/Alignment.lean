import Chip8.Proofs.Calls
import Chip8.Proofs.Histories
import Chip8.Proofs.Lockstep

/-!
# Instructions stay on even addresses

An instruction takes two bytes, and the first one of a program lies at an even address. Execution
goes on by two or by four bytes, around the end of the sixteen bits as well, so it comes to an odd
address only if it is sent there. Jumps and calls send it where the program says. A return sends it
behind the address that it pops, which may have been pushed long ago, may have been overwritten or
may never have been pushed at all. Hence all sixteen slots of the stack belong to what is kept
(`WordAligned`), and not the program counter alone: if every jump and every call that is executed
ends at an even address, nothing odd ever gets into any of them (`addresses_stay_even`).
-/
namespace Chip8

/-- Two bytes behind an even address is an even address, at the end of the sixteen bits too. -/
theorem even_add_two {address : UInt16} (even : 2 ∣ address.toNat) : 2 ∣ (address + 2).toNat := by
  have two : (2 : UInt16).toNat = 2 := rfl
  rw [UInt16.toNat_add, two]
  omega

namespace Instruction

/-- Whether an instruction says itself where execution goes: a jump, a call or a jump with offset. -/
def isJump : Instruction → Bool
  | .jump _ | .call _ | .jumpOffset _ => true
  | _ => false

end Instruction

namespace Machine

open Operation (Along)

/-- The program counter and all slots of the stack, used or not, hold even addresses. -/
structure WordAligned (machine : Machine) : Prop where
  /-- The next instruction begins at an even address. -/
  pc : 2 ∣ machine.pc.toNat
  /-- So does whatever a return can go back to. -/
  slots : ∀ slot : Fin 16, 2 ∣ (machine.stack.slots.get slot).toNat

/-- If an operation executes a jump or a call, the program counter is even afterwards. -/
def LandsEven (machine : Machine) (operation : Operation) : Prop :=
  ∀ ins ∈ (machine.perform operation).1.executed?, ins.isJump →
    2 ∣ (machine.perform operation).2.pc.toNat

/-- Where an operation lands is found by performing it. -/
instance (machine : Machine) (operation : Operation) : Decidable (machine.LandsEven operation) :=
  inferInstanceAs (Decidable (∀ ins ∈ (machine.perform operation).1.executed?, ins.isJump →
    2 ∣ (machine.perform operation).2.pc.toNat))

variable {machine : Machine} {ins : Instruction} {operation : Operation}

/-- Where execution goes without a jump: it stays, it goes on by one instruction or by two, or it
goes on behind the address that a return pops. -/
theorem pc_effect_of_straight (machine : Machine) (straight : ¬ins.isJump) :
    (machine.effect ins).pc = machine.pc ∨ (machine.effect ins).pc = machine.pc + 2 ∨
      (machine.effect ins).pc = machine.pc + 2 + 2 ∨
      (machine.effect ins).pc = machine.stack.top + 2 := by
  have skipped (condition : Bool) : (machine.skipIf condition).next.pc = machine.pc + 2 ∨
      (machine.skipIf condition).next.pc = machine.pc + 2 + 2 := by
    cases condition with
    | false => exact .inl rfl
    | true => exact .inr rfl
  cases ins with
  | jump | call | jumpOffset => exact absurd rfl straight
  | skipIfByte | skipUnlessByte | skipIfSame | skipUnlessSame | skipIfKey | skipUnlessKey =>
    exact (skipped _).elim (.inr ∘ .inl) (.inr ∘ .inr ∘ .inl)
  | ret => exact .inr (.inr (.inr rfl))
  | unimplemented => exact .inl rfl
  | awaitKey x =>
    cases first : machine.keys.first? with
    | none =>
      rw [effect_awaitKey_idle first]
      exact .inl rfl
    | some key =>
      rw [effect_awaitKey_held first]
      exact .inr (.inl rfl)
  | _ => exact .inr (.inl rfl)

/-- A machine that was reset, or has loaded a program or refused it, is aligned. -/
theorem wordAligned_of_restart (machine : Machine) (restarts : ¬operation.KeepsProgram) :
    (machine.perform operation).2.WordAligned := by
  obtain ⟨memory, left⟩ := machine.perform_of_restart restarts
  have blank (slot : Fin 16) : machine.reset.stack.slots.get slot = 0 := get_replicate_cell 0 slot
  rw [left]
  constructor
  case pc =>
    show 2 ∣ (UInt16.ofNat Memory.programStart).toNat
    decide
  case slots =>
    intro slot
    show 2 ∣ (machine.reset.stack.slots.get slot).toNat
    rw [blank]
    decide

/-- Alignment is a matter of program counter and stack. -/
theorem WordAligned.of_unmoved {after : Machine} (aligned : machine.WordAligned)
    (unmoved : machine.Unmoved after) : after.WordAligned := by
  refine ⟨?_, fun slot => ?_⟩
  · rw [unmoved.pc]
    exact aligned.pc
  · rw [unmoved.stack]
    exact aligned.slots slot

/-- An instruction keeps the slots even: a call pushes the program counter, and nothing else is ever
pushed. -/
theorem WordAligned.slots_effect (aligned : machine.WordAligned) (ins : Instruction)
    (slot : Fin 16) : 2 ∣ ((machine.effect ins).stack.slots.get slot).toNat := by
  rw [stack_effect]
  cases ins with
  | call target =>
    rw [Stack.slots_push]
    split
    · exact aligned.pc
    · exact aligned.slots slot
  | _ => exact aligned.slots slot

/-- **One instruction.** Alignment is kept by every instruction, jumps and calls excepted that end at
an odd address. -/
theorem WordAligned.effect (aligned : machine.WordAligned)
    (lands : ins.isJump → 2 ∣ (machine.effect ins).pc.toNat) :
    (machine.effect ins).WordAligned := by
  refine ⟨?_, aligned.slots_effect ins⟩
  by_cases jumps : ins.isJump
  · exact lands jumps
  · have popped : 2 ∣ machine.stack.top.toNat := aligned.slots (machine.stack.pointer - 1)
    rcases machine.pc_effect_of_straight jumps with stays | goes | skips | returns
    · rw [stays]
      exact aligned.pc
    · rw [goes]
      exact even_add_two aligned.pc
    · rw [skips]
      exact even_add_two (even_add_two aligned.pc)
    · rw [returns]
      exact even_add_two popped

/-- **One operation.** Whatever a host does keeps the machine aligned, unless it executes a jump or a
call to an odd address. -/
theorem WordAligned.perform (aligned : machine.WordAligned) (lands : machine.LandsEven operation) :
    (machine.perform operation).2.WordAligned := by
  by_cases keeps : operation.KeepsProgram
  · cases done : (machine.perform operation).1.executed? with
    | none => exact aligned.of_unmoved (unmoved_perform keeps done)
    | some ins =>
      have lands := lands ins done
      rw [perform_of_executed done] at lands ⊢
      exact aligned.effect lands
  · exact machine.wordAligned_of_restart keeps

/-- A history keeps the machine aligned if its jumps and calls end at even addresses. -/
theorem WordAligned.performAll {history : List Operation} (aligned : machine.WordAligned)
    (lands : Along Machine.perform LandsEven machine history) :
    (machine.performAll history).WordAligned := by
  induction history generalizing machine with
  | nil => exact aligned
  | cons operation later inductionHypothesis =>
    rw [performAll_cons]
    exact inductionHypothesis (aligned.perform lands.1) lands.2

/-- So does a run against a clock, whose history is made of looks. -/
theorem WordAligned.attended {settings : Settings} {moment : Int} {looks : List Look}
    {panel : Panel} (aligned : machine.WordAligned)
    (lands : Along Machine.perform LandsEven (machine.withShift settings.shift)
      ((Run.start settings moment machine panel).operations looks)) :
    (Run.attended settings moment looks machine panel).machine.WordAligned := by
  have begun : (machine.withShift settings.shift).WordAligned := ⟨aligned.pc, aligned.slots⟩
  show ((Run.start settings moment machine panel).polls looks).1.machine.WordAligned
  rw [Run.machine_polls]
  exact begun.performAll lands

/-- **Instructions stay on even addresses.** Reset any machine or load any program into it, and let
any history follow, of which runs against a clock are parts: as long as every jump, call and jump with
offset that is executed sets the program counter to an even address, the program counter and all sixteen
slots of the stack are even at every moment. -/
theorem addresses_stay_even {restart : Operation} {history : List Operation}
    (restarts : ¬restart.KeepsProgram)
    (lands : Along Machine.perform LandsEven (machine.perform restart).2 history) (moment : Nat) :
    ((machine.perform restart).2.performAll (history.take moment)).WordAligned :=
  (machine.wordAligned_of_restart restarts).performAll (lands.take moment)

/-- A machine that stands at an odd address and can only return to odd addresses. -/
def askew : Machine :=
  { initial with pc := 0x201, stack := ⟨Vector.replicate 16 0x333, Fin.last 15⟩ }

/-- A program that waits for a key, skips, jumps with offset, calls a subroutine that returns at once,
and then returns from a call that was never made. -/
def detour : List UInt8 :=
  [0xF0, 0x0A, 0x30, 0x04, 0x00, 0x00, 0xB2, 0x06, 0x00, 0x00, 0x22, 0x0E, 0x00, 0xEE, 0x00, 0xEE]

/-- The detour, through the font into a fault, after which the host makes the machine jump to the last
two bytes of the sixteen bits and skip beyond them. -/
def detoured : List Operation :=
  [.step, .setKey 4 true] ++ List.replicate 10 .step ++
    [.execute (.jump 0xFFFE), .execute (.skipIfByte 1 0)]

/-- The detour lands on even addresses only, so the machine is aligned throughout, although it was not
before. -/
theorem addresses_stay_even_askew :
    ¬(Operation.load detour).KeepsProgram ∧ ¬askew.WordAligned ∧
      Along Machine.perform LandsEven (askew.perform (.load detour)).2 detoured ∧
      (∀ moment, ((askew.perform (.load detour)).2.performAll (detoured.take moment)).WordAligned) ∧
      ((askew.perform (.load detour)).2.performAll detoured).pc = 2 := by
  have restarts : ¬(Operation.load detour).KeepsProgram := id
  have odd : ¬2 ∣ askew.pc.toNat := by decide
  have lands : Along Machine.perform LandsEven (askew.perform (.load detour)).2 detoured := by
    decide +kernel
  exact ⟨restarts, fun aligned => odd aligned.pc, lands, addresses_stay_even restarts lands,
    by decide +kernel⟩

end Machine

end Chip8
