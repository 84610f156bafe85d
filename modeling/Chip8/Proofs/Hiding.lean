import Chip8.Proofs.Erasure
import Chip8.Proofs.Lockstep

/-!
# Components that stay hidden

Some components of a machine show only through a few instructions. Let an erasure remove such a
component. If machines that differ in it alone agree on what a step looks at, if they still differ
in it alone after every instruction that is blind to it, and if everything else that a host does
treats them alike (`Hides`), then no history tells them apart in which every instruction executed is
blind (`Hides.indistinguishable`).
-/
namespace Chip8

namespace Machine

open Operation (replies)

/-- Every instruction that a history executes is blind in the machine that executes it. -/
abbrev AlongBlind (Blind : Machine → Instruction → Prop) (machine : Machine)
    (history : List Operation) : Prop :=
  Operation.Along perform
    (fun machine operation =>
      ∀ ins, (machine.perform operation).1.executed? = some ins → Blind machine ins)
    machine history

/-- A history is blind if every instruction that it executes is of a kind that is always blind. -/
theorem alongBlind_of_executed {Plain : Instruction → Prop} {machine : Machine}
    {history : List Operation} (plain : ∀ ins ∈ machine.executed history, Plain ins) :
    AlongBlind (fun _ ins => Plain ins) machine history := by
  have allowed : ∀ operation ∈ history, True := fun _ _ => trivial
  exact (Operation.along_of_executed allowed plain).imp fun _ _ both => both.2

/-- Two machines answer a history alike, and at every moment differ in what is erased alone. -/
structure Indistinguishable (erase : Machine → Machine) (left right : Machine)
    (history : List Operation) : Prop where
  /-- Every operation is answered alike. -/
  replies : replies perform left history = replies perform right history
  /-- From the first operation to the last, the machines are the same after the erasure. -/
  machines : ∀ moment,
    erase (left.performAll (history.take moment)) = erase (right.performAll (history.take moment))

/-- What an erasure removes shows through no operation, unless an instruction is executed that is
not blind to it. -/
structure Hides (erase : Machine → Machine) (Blind : Machine → Instruction → Prop) : Prop where
  /-- What is removed does not decide which instruction is executed next. -/
  aligned : ∀ {left right : Machine}, erase left = erase right → left.Aligned right
  /-- A blind instruction changes nothing but what is removed in different ways. -/
  effect : ∀ {left right : Machine} {ins : Instruction}, erase left = erase right →
    ((left.outcome ins).executed? = some ins → Blind left ins) →
    erase (left.effect ins) = erase (right.effect ins)
  /-- Nor does anything that executes no instruction, and it is answered alike. -/
  host : ∀ {left right : Machine} {operation : Operation}, erase left = erase right →
    ¬operation.Executes →
    (left.perform operation).1 = (right.perform operation).1 ∧
      erase (left.perform operation).2 = erase (right.perform operation).2

variable {erase : Machine → Machine} {Blind : Machine → Instruction → Prop} {left right : Machine}

/-- Loading a program treats machines alike that a reset and the same memory make the same after the
erasure. -/
theorem perform_load_alike (program : List UInt8)
    (resets : ∀ memory, erase { left.reset with memory } = erase { right.reset with memory }) :
    (left.perform (.load program)).1 = (right.perform (.load program)).1 ∧
      erase (left.perform (.load program)).2 = erase (right.perform (.load program)).2 := by
  obtain ⟨refusal, memory, notes, loaded⟩ := uniform_load program
  rw [perform, perform, loaded, loaded]
  exact ⟨rfl, resets memory⟩

/-- An operation does not tell apart what is the same after the erasure, if the instruction that it
executes is blind. -/
theorem Hides.perform {operation : Operation} (hides : Hides erase Blind)
    (same : erase left = erase right)
    (blind : ∀ ins, (left.perform operation).1.executed? = some ins → Blind left ins) :
    (left.perform operation).1 = (right.perform operation).1 ∧
      erase (left.perform operation).2 = erase (right.perform operation).2 := by
  have aligned := hides.aligned same
  cases operation with
  | step =>
    obtain ⟨outcomes, machines⟩ := aligned.step same
    refine ⟨congrArg Reply.outcome outcomes, machines fun ins hand => hides.effect same ?_⟩
    intro done
    refine blind ins ?_
    show left.step.outcome.executed? = some ins
    rw [(step_of_hand (aligned.hand hand)).1, done]
  | execute ins =>
    exact ⟨congrArg Reply.outcome (aligned.outcome ins), hides.effect same (blind ins)⟩
  | _ => exact hides.host same id

/-- **What is hidden stays hidden.** No history in which every instruction executed is blind tells
apart two machines that are the same after the erasure. -/
theorem Hides.indistinguishable {history : List Operation} (hides : Hides erase Blind)
    (same : erase left = erase right) (blind : AlongBlind Blind left history) :
    Indistinguishable erase left right history := by
  have square : ∀ (l r : Machine) (operation : Operation), erase l = erase r →
      (∀ ins, (l.perform operation).1.executed? = some ins → Blind l ins) →
      (l.perform operation).1 = (r.perform operation).1 ∧
        erase (l.perform operation).2 = erase (r.perform operation).2 :=
    fun _ _ _ same blind => hides.perform same blind
  -- What is blind along a history is so along each of its beginnings, which gives every moment.
  constructor
  case replies => exact List.forall₂_eq_eq_eq ▸ (Operation.lockstep square same blind).1
  case machines => exact fun moment => (Operation.lockstep square same (blind.take moment)).2

end Machine

end Chip8
