import Chip8.Proofs.Blocks
import Chip8.Proofs.Effects

/-!
# Calls return

A call saves its own address in the slot that the stack pointer names, and the return that
matches it takes that address and goes on behind it. The stack is a ring of sixteen slots, so the
saved address survives as long as no more than sixteen calls are open, the first one included;
where the ring begins does not matter. Between call and return the program may do whatever it
likes, and so may the host, except that it loads or resets nothing (`pc_of_returned`).
-/
namespace Chip8

namespace Instruction

/-- By how much an instruction changes the number of open calls. -/
def nesting : Instruction → Int
  | .call _ => 1
  | .ret => -1
  | _ => 0

/-- Only a return lowers the number of open calls. -/
theorem eq_ret_of_nesting_neg {ins : Instruction} (negative : ins.nesting < 0) : ins = .ret := by
  cases ins with
  | ret => rfl
  | call target =>
    have positive : (1 : Int) < 0 := negative
    omega
  | _ => exact absurd negative (Int.lt_irrefl 0)

/-- The calls among some executed instructions less the returns among them. -/
def depth : List Instruction → Int
  | [] => 0
  | ins :: later => ins.nesting + depth later

/-- Counted from some number of open calls, the executed instructions leave none open at their
end, some open at every point before it, and at no point more than sixteen. -/
structure Closes (opened : Int) (executed : List Instruction) : Prop where
  /-- In the end no call is open. -/
  closed : opened + depth executed = 0
  /-- Between the beginning and the end some call is open. -/
  first : ∀ count, 0 < count → count < executed.length →
    opened + depth (executed.take count) ≠ 0
  /-- At no point are more than sixteen calls open. -/
  shallow : ∀ count, opened + depth (executed.take count) ≤ 16

/-- Past the first instruction, the later ones close what is then open. -/
theorem Closes.tail {opened : Int} {ins : Instruction} {later : List Instruction}
    (closes : Closes opened (ins :: later)) : Closes (opened + ins.nesting) later := by
  constructor
  · have closed := closes.closed
    rw [depth] at closed
    omega
  · intro count _ below
    have first := closes.first (count + 1) (Nat.succ_pos count) (Nat.succ_lt_succ below)
    rw [List.take_succ_cons, depth] at first
    omega
  · intro count
    have shallow := closes.shallow (count + 1)
    rw [List.take_succ_cons, depth] at shallow
    omega

/-- The first instruction after which no call is open is the last one. -/
theorem Closes.tail_eq_nil {opened : Int} {ins : Instruction} {later : List Instruction}
    (closes : Closes opened (ins :: later)) (none : opened + ins.nesting = 0) : later = [] := by
  cases later with
  | nil => rfl
  | cons next others =>
    have first := closes.first 1 Nat.one_pos (Nat.succ_lt_succ (Nat.succ_pos others.length))
    rw [List.take_succ_cons, List.take_zero, depth, depth] at first
    omega

/-- At most sixteen calls are open at the beginning. -/
theorem Closes.opened_le {opened : Int} {executed : List Instruction}
    (closes : Closes opened executed) : opened ≤ 16 := by
  have shallow := closes.shallow 0
  rw [List.take_zero, depth] at shallow
  omega

end Instruction

open Instruction (depth Closes)

namespace Stack

/-- A push moves the pointer up by one, around the ring. -/
theorem pointer_push (stack : Stack) (address : UInt16) :
    (stack.push address).pointer.val = (stack.pointer.val + 1) % 16 := rfl

/-- A pop moves the pointer down by one, around the ring. -/
theorem pointer_pop (stack : Stack) : stack.pop.pointer.val = (stack.pointer.val + 15) % 16 := by
  rw [pop, Fin.val_sub]
  show (16 - 1 + stack.pointer.val) % 16 = _
  omega

/-- A push fills the slot pointed at and leaves the others. -/
theorem slots_push (stack : Stack) (address : UInt16) (slot : Fin 16) :
    (stack.push address).slots.get slot =
      if stack.pointer = slot then address else stack.slots.get slot :=
  get_set_cell stack.slots stack.pointer slot address

end Stack

namespace Machine

/-- A call that saved its address in a slot is open, with some number of open calls counted from
it on. -/
structure Inside (machine : Machine) (slot : Fin 16) (address : UInt16) (opened : Int) :
    Prop where
  /-- The pointer is as many slots further as calls are open. -/
  pointer : machine.stack.pointer.val = (slot.val + opened) % 16
  /-- The slot still holds the address of the call. -/
  saved : machine.stack.slots.get slot = address

variable {machine : Machine} {slot : Fin 16} {address : UInt16} {opened : Int}

/-- Being inside a call is a matter of the stack. -/
theorem Inside.of_stack_eq {after : Machine} (inside : machine.Inside slot address opened)
    (same : after.stack = machine.stack) : after.Inside slot address opened := by
  constructor
  · rw [same]
    exact inside.pointer
  · rw [same]
    exact inside.saved

/-- A call opens a call and saves its own address. -/
theorem inside_call (machine : Machine) (target : UInt16) :
    (machine.effect (.call target)).Inside machine.stack.pointer machine.pc 1 := by
  have stack := machine.stack_effect (.call target)
  dsimp only at stack
  constructor
  · rw [stack, Stack.pointer_push]
    omega
  · rw [stack, Stack.slots_push, if_pos rfl]

/-- Inside a call every instruction keeps the saved address, as long as the ring is not full
before a further call. -/
theorem Inside.effect {ins : Instruction} (inside : machine.Inside slot address opened)
    (positive : 0 < opened) (room : opened + ins.nesting ≤ 16) :
    (machine.effect ins).Inside slot address (opened + ins.nesting) := by
  have pointer := inside.pointer
  have below := slot.isLt
  have stack := machine.stack_effect ins
  cases ins with
  | call target =>
    change opened + 1 ≤ 16 at room
    have apart : machine.stack.pointer ≠ slot := by
      intro same
      rw [same] at pointer
      omega
    constructor
    · rw [stack, Stack.pointer_push]
      show _ = (slot.val + (opened + 1)) % 16
      omega
    · rw [stack, Stack.slots_push, if_neg apart]
      exact inside.saved
  | ret =>
    change opened + -1 ≤ 16 at room
    constructor
    · rw [stack, Stack.pointer_pop]
      show _ = (slot.val + (opened + -1)) % 16
      omega
    · rw [stack]
      exact inside.saved
  | _ =>
    show (machine.effect _).Inside slot address (opened + 0)
    rw [Int.add_zero]
    exact inside.of_stack_eq stack

/-- The return that closes the call goes on behind it and restores the pointer. -/
theorem Inside.close (inside : machine.Inside slot address 1) :
    (machine.effect .ret).pc = address + 2 ∧ (machine.effect .ret).stack.pointer = slot := by
  have before : machine.stack.pointer - 1 = slot := by
    apply Fin.ext
    have pointer := inside.pointer
    have popped := machine.stack.pointer_pop
    have below := slot.isLt
    rw [Stack.pop] at popped
    dsimp only at popped
    omega
  have top : machine.stack.top = address := by
    subst before
    exact inside.saved
  refine ⟨?_, before⟩
  rw [← top]
  rfl

/-- An operation that keeps the program executes an instruction, or it leaves program counter
and stack alone. -/
theorem perform_cases (machine : Machine) {operation : Operation}
    (stepwise : operation.Stepwise) (keeps : operation.KeepsProgram) :
    ((machine.perform operation).1.executed? = none ∧
      (machine.perform operation).2.pc = machine.pc ∧
      (machine.perform operation).2.stack = machine.stack) ∨
    ∃ ins, (machine.perform operation).1.executed? = some ins ∧
      (machine.perform operation).2 = machine.effect ins := by
  rcases Operation.step_or_between stepwise keeps with rfl | between
  · cases done : machine.step.outcome.executed? with
    | none =>
      have idle : (machine.perform .step).2 = _ := machine_of_idle done
      rw [idle]
      exact .inl ⟨done, rfl, rfl⟩
    | some ins => exact .inr ⟨ins, done, machine_of_executed done⟩
  · have same := machine.perform_between between
    exact .inl ⟨executed?_between _ between, same.pc, same.stack⟩

/-- A history that executes nothing leaves program counter and stack alone. -/
theorem performAll_of_idle {history : List Operation}
    (kept : ∀ operation ∈ history, operation.Stepwise ∧ operation.KeepsProgram)
    (idle : machine.executed history = []) :
    (machine.performAll history).pc = machine.pc ∧
      (machine.performAll history).stack = machine.stack := by
  induction history generalizing machine with
  | nil => exact ⟨rfl, rfl⟩
  | cons operation later inductionHypothesis =>
    obtain ⟨stepwise, keeps⟩ := kept operation List.mem_cons_self
    obtain ⟨nothing, rest⟩ := List.append_eq_nil_iff.1 idle
    obtain ⟨pc, stack⟩ := inductionHypothesis
      (fun other member => kept other (List.mem_cons_of_mem operation member)) rest
    rcases machine.perform_cases stepwise keeps with ⟨_, samePc, sameStack⟩ | executed
    · rw [performAll_cons, pc, stack]
      exact ⟨samePc, sameStack⟩
    · obtain ⟨ins, done, _⟩ := executed
      rw [done] at nothing
      cases nothing

/-- Inside a call, a history that closes it goes on behind it and restores the pointer. -/
theorem Inside.performAll {history : List Operation}
    (inside : machine.Inside slot address opened) (positive : 0 < opened)
    (kept : ∀ operation ∈ history, operation.Stepwise ∧ operation.KeepsProgram)
    (closes : Closes opened (machine.executed history)) :
    (machine.performAll history).pc = address + 2 ∧
      (machine.performAll history).stack.pointer = slot := by
  induction history generalizing machine opened with
  | nil =>
    have closed : opened + 0 = 0 := closes.closed
    omega
  | cons operation later inductionHypothesis =>
    obtain ⟨stepwise, keeps⟩ := kept operation List.mem_cons_self
    have keptLater := fun other member => kept other (List.mem_cons_of_mem operation member)
    rw [performAll_cons]
    rcases machine.perform_cases stepwise keeps with ⟨nothing, _, stack⟩ | executed
    · rw [Machine.executed, nothing] at closes
      exact inductionHypothesis (inside.of_stack_eq stack) positive keptLater closes
    · obtain ⟨ins, done, left⟩ := executed
      rw [Machine.executed, done, left] at closes
      rw [left]
      have rest : Closes (opened + ins.nesting) ((machine.effect ins).executed later) :=
        closes.tail
      by_cases within : 0 < opened + ins.nesting
      · exact inductionHypothesis (inside.effect positive rest.opened_le) within keptLater rest
      · -- Only a return closes a call, and the call it closes is then the last one open.
        obtain rfl : ins = .ret := Instruction.eq_ret_of_nesting_neg (by omega)
        have nesting : Instruction.nesting .ret = -1 := rfl
        obtain rfl : opened = 1 := by omega
        obtain ⟨pc, pointer⟩ := inside.close
        obtain ⟨samePc, sameStack⟩ := performAll_of_idle keptLater (closes.tail_eq_nil rfl)
        rw [samePc, sameStack]
        exact ⟨pc, pointer⟩

/-- **Calls return.** Let a running machine stand at a call, and let a history of steps and of
what a host does between them execute the call and what follows, up to the first return after
which as many returns as calls were executed. If at no point more than sixteen calls were open,
the history ends behind the call, with the stack pointer where the call found it. -/
theorem pc_of_returned {target : UInt16} {history : List Operation}
    (running : machine.status = .running) (call : machine.current = .call target)
    (kept : ∀ operation ∈ history, operation.Stepwise ∧ operation.KeepsProgram)
    (began : machine.executed history ≠ []) (closes : Closes 0 (machine.executed history)) :
    (machine.performAll history).pc = machine.pc + 2 ∧
      (machine.performAll history).stack.pointer = machine.stack.pointer := by
  induction history generalizing machine with
  | nil => exact absurd rfl began
  | cons operation later inductionHypothesis =>
    obtain ⟨stepwise, keeps⟩ := kept operation List.mem_cons_self
    have keptLater := fun other member => kept other (List.mem_cons_of_mem operation member)
    rcases Operation.step_or_between stepwise keeps with rfl | between
    · -- The first step executes the call, and the rest of the history closes it.
      have turn : machine.step = machine.execute (.call target) := by rw [step, running, call]
      have after : (machine.perform .step).2 = machine.effect (.call target) := by
        rw [Machine.perform, turn]
        rfl
      have trace : machine.executed (.step :: later) =
          .call target :: (machine.effect (.call target)).executed later := by
        rw [Machine.executed, after, Machine.perform, turn]
        rfl
      rw [trace] at closes
      rw [performAll_cons, after]
      exact (inside_call machine target).performAll Int.one_pos keptLater closes.tail
    · have same := machine.perform_between between
      have trace : machine.executed (operation :: later) =
          (machine.perform operation).2.executed later := by
        rw [Machine.executed, executed?_between _ between]
        rfl
      rw [trace] at began closes
      rw [performAll_cons, ← same.pc, ← same.stack]
      exact inductionHypothesis (same.status.trans running) (same.current.trans call) keptLater
        began closes

/-- A machine whose program calls a subroutine that calls another one, with the stack pointer at
the last slot of the ring. -/
def nested : Machine :=
  { (initial.load [0x22, 0x04, 0x00, 0x00, 0x22, 0x08, 0x00, 0xEE, 0x00, 0xEE]).machine with
    stack := ⟨Vector.replicate 16 0, Fin.last 15⟩ }

/-- Four steps call both subroutines and return from them, around the end of the ring. -/
theorem returned_nested :
    (nested.performAll (List.replicate 4 .step)).pc = nested.pc + 2 ∧
      (nested.performAll (List.replicate 4 .step)).stack.pointer = nested.stack.pointer := by
  have executed : nested.executed (List.replicate 4 .step) =
      [.call 0x204, .call 0x208, .ret, .ret] := by
    decide +kernel
  have call : nested.current = .call 0x204 := by decide +kernel
  have closes : Closes 0 [.call 0x204, .call 0x208, .ret, .ret] := by
    constructor
    · decide
    · have first : ∀ count < 4, 0 < count →
          (0 : Int) + depth ([.call 0x204, .call 0x208, .ret, .ret].take count) ≠ 0 := by
        decide
      exact fun count positive below => first count below positive
    · intro count
      have few : ∀ count < 5,
          (0 : Int) + depth ([.call 0x204, .call 0x208, .ret, .ret].take count) ≤ 16 := by
        decide
      by_cases below : count < 5
      · exact few count below
      · have whole : 4 ≤ count := by omega
        rw [List.take_of_length_le whole]
        decide
  refine pc_of_returned rfl call (by decide) ?_ ?_
  · rw [executed]
    exact List.cons_ne_nil _ _
  · rw [executed]
    exact closes

end Machine

end Chip8
