import Chip8.Diagnostic

/-!
# The call stack

Sixteen slots in a ring. The pointer names the slot that the next call fills, and wraps in
both directions, so pushing and popping never fail: a push onto a full ring overwrites the
oldest address, and a pop from an empty ring takes whatever the last slot holds. Both report
when the pointer passes the seam between the last slot and the first.
-/
namespace Chip8

/-- A ring of return addresses. -/
structure Stack where
  /-- The addresses, live or stale. -/
  slots : Vector UInt16 16
  /-- The slot that the next push fills. -/
  pointer : Fin 16
deriving DecidableEq, Repr

namespace Stack

/-- The number of slots. -/
def depth : Nat := 16

/-- All slots hold zero and the first is filled next. -/
def empty : Stack := ⟨Vector.replicate 16 0, 0⟩

/-- A push fills the slot pointed at and moves to the next. -/
def push (stack : Stack) (address : UInt16) : Stack :=
  ⟨stack.slots.set stack.pointer address stack.pointer.isLt, stack.pointer + 1⟩

/-- The address that a pop takes, from the slot before the pointer. -/
def top (stack : Stack) : UInt16 := stack.slots[stack.pointer - 1]

/-- A pop moves to the slot before and leaves its address there. -/
def pop (stack : Stack) : Stack := { stack with pointer := stack.pointer - 1 }

/-- A push into the last slot is reported. -/
def pushNotes (stack : Stack) : List Diagnostic :=
  if stack.pointer = 15 then [.stackFull] else []

/-- A pop at the first slot is reported. -/
def popNotes (stack : Stack) : List Diagnostic :=
  if stack.pointer = 0 then [.stackUnderflow] else []

/-- A pop takes what the push before it stored. -/
theorem top_push (stack : Stack) (address : UInt16) : (stack.push address).top = address := by
  have back : stack.pointer + 1 - 1 = stack.pointer := by grind
  simp [push, top, back]

/-- A pop returns the pointer to where the push found it. -/
theorem pointer_pop_push (stack : Stack) (address : UInt16) :
    (stack.push address).pop.pointer = stack.pointer := by
  simp only [push, pop]
  grind

end Stack

end Chip8
