import Chip8.Proofs.Coherence
import Chip8.Proofs.Lockstep

/-!
# Waiting is fetching again

A machine that waits for a key remembers the register and fetches nothing until a key is held. A
`Refetcher` has no such state: unless it met a fault it fetches and decodes at every step, and when
it comes to an instruction that waits while no key is held it tells so and changes nothing, so that
it comes to the same instruction at its next step. No host can tell the two apart by loading,
resetting, stepping and what it does in between (`refetching_agrees`). The reason is that the
status of a waiting machine agrees with memory: the instruction at its program counter is the one
that it remembers.
-/
namespace Chip8

namespace Status

/-- The status of a machine that does not remember what it waits for. -/
def roused : Status → Status
  | .awaitingKey _ => .running
  | status => status

/-- A roused status is not a wait. -/
theorem roused_ne_awaitingKey (status : Status) (register : UInt8) :
    status.roused ≠ .awaitingKey register := by
  cases status with
  | awaitingKey other => exact nofun
  | running => exact nofun
  | faulted fault => exact nofun

/-- Rousing keeps every status that is not a wait. -/
theorem roused_eq {status : Status} (awake : ∀ register, status ≠ .awaitingKey register) :
    status.roused = status := by
  cases status with
  | awaitingKey register => exact absurd rfl (awake register)
  | running => rfl
  | faulted fault => rfl

end Status

/-- A machine that is running or has met a fault, and never waits. -/
structure Refetcher where
  /-- The machine. -/
  machine : Machine
  /-- The machine does not wait. -/
  awake : ∀ register, machine.status ≠ .awaitingKey register

namespace Machine

variable {machine : Machine}

/-- Whether an instruction waits for a key while no key is held. -/
def waitsInVain (machine : Machine) : Instruction → Bool
  | .awaitKey _ => machine.keys.first?.isNone
  | _ => false

/-- An instruction that does not wait in vain leaves a machine awake. -/
theorem awake_effect {ins : Instruction} (awake : ∀ register, machine.status ≠ .awaitingKey register)
    (going : machine.waitsInVain ins = false) (register : UInt8) :
    (machine.effect ins).status ≠ .awaitingKey register := by
  by_cases waits : ∃ x, ins = .awaitKey x
  · obtain ⟨x, rfl⟩ := waits
    cases first : machine.keys.first? with
    | none =>
      rw [waitsInVain, first] at going
      cases going
    | some key =>
      rw [effect_awaitKey_held first]
      exact nofun
  · by_cases none : ∃ word, ins = .unimplemented word
    · obtain ⟨word, rfl⟩ := none
      exact nofun
    · have kept : (machine.effect ins).status = machine.status :=
        status_effect (fun x same => waits ⟨x, same⟩) (fun word same => none ⟨word, same⟩)
      rw [kept]
      exact awake register

/-- A running machine is awake. -/
theorem awake_of_running (running : machine.status = .running) (register : UInt8) :
    machine.status ≠ .awaitingKey register := by
  rw [running]
  exact nofun

end Machine

namespace Refetcher

variable {refetcher : Refetcher}

/-- An instruction is executed, unless it waits in vain: that changes nothing. -/
def execute (refetcher : Refetcher) (ins : Instruction) : Outcome × Refetcher :=
  if going : refetcher.machine.waitsInVain ins = false then
    (refetcher.machine.outcome ins,
      ⟨refetcher.machine.effect ins, Machine.awake_effect refetcher.awake going⟩)
  else (.awaitingKey, refetcher)

/-- A step fetches and decodes, unless the machine met a fault. -/
def step (refetcher : Refetcher) : Outcome × Refetcher :=
  match refetcher.machine.status with
  | .faulted fault => (.faulted fault, refetcher)
  | _ => refetcher.execute refetcher.machine.current

/-- An operation is performed on a machine that never waits. -/
def perform (refetcher : Refetcher) : Operation → Reply × Refetcher
  | .step => (.outcome refetcher.step.1, refetcher.step.2)
  | .execute ins => (.outcome (refetcher.execute ins).1, (refetcher.execute ins).2)
  | .tick => (.done, ⟨refetcher.machine.tick, refetcher.awake⟩)
  | .latch keys => (.done, ⟨refetcher.machine.latch keys, refetcher.awake⟩)
  | .setKey key pressed => (.done, ⟨refetcher.machine.setKey key pressed, refetcher.awake⟩)
  | .releaseKeys => (.done, ⟨refetcher.machine.releaseKeys, refetcher.awake⟩)
  | .chooseShift shift => (.done, ⟨refetcher.machine.withShift shift, refetcher.awake⟩)
  | .supplyRandom random => (.done, ⟨refetcher.machine.withRandom random, refetcher.awake⟩)
  | .takeFrame =>
    (.frame refetcher.machine.takeFrame.1, ⟨refetcher.machine.takeFrame.2, refetcher.awake⟩)
  | .load program =>
    let loading := refetcher.machine.load program
    (.loaded loading.refusal,
      ⟨loading.machine, Machine.awake_of_running (refetcher.machine.status_load program)⟩)
  | .reset => (.done, ⟨refetcher.machine.reset, fun _ => nofun⟩)

/-- Machines that never wait are told apart by their state alone. -/
theorem ext_machine {left right : Refetcher} (same : left.machine = right.machine) :
    left = right := by
  obtain ⟨machine, awake⟩ := left
  obtain ⟨other, awake'⟩ := right
  subst same
  rfl

/-- A step of a machine that is not stopped executes the instruction at its program counter. -/
theorem step_of_running (running : refetcher.machine.status = .running) :
    refetcher.step = refetcher.execute refetcher.machine.current := by
  rw [step, running]

/-- An instruction that waits in vain changes nothing. -/
theorem execute_of_idle {x : UInt8} (nobody : refetcher.machine.keys.first? = none) :
    refetcher.execute (.awaitKey x) = (.awaitingKey, refetcher) := by
  have vain : refetcher.machine.waitsInVain (.awaitKey x) = true := by
    rw [Machine.waitsInVain, nobody]
    rfl
  rw [execute, dif_neg (by rw [vain]; exact nofun)]

/-- Any other instruction is executed. -/
theorem execute_of_going {ins : Instruction}
    (going : refetcher.machine.waitsInVain ins = false) :
    refetcher.execute ins =
      (refetcher.machine.outcome ins,
        ⟨refetcher.machine.effect ins, Machine.awake_effect refetcher.awake going⟩) := by
  rw [execute, dif_pos going]

end Refetcher

namespace Machine

variable {machine : Machine}

/-- The machine that has forgotten what it waits for. -/
def rouse (machine : Machine) : Refetcher where
  machine := { machine with status := machine.status.roused }
  awake := machine.status.roused_ne_awaitingKey

/-- A machine that does not wait has nothing to forget. -/
theorem machine_rouse (awake : ∀ register, machine.status ≠ .awaitingKey register) :
    machine.rouse.machine = machine := by
  show { machine with status := machine.status.roused } = machine
  rw [Status.roused_eq awake]

/-- Outcomes do not depend on the status. -/
theorem outcome_rouse (machine : Machine) (ins : Instruction) :
    machine.rouse.machine.outcome ins = machine.outcome ins := by
  cases ins <;> rfl

/-- The instruction at hand is the next one of the machine that has forgotten what it waits for,
because the status of a waiting machine agrees with memory. -/
theorem AtHand.rouse {ins : Instruction} (coherent : machine.Coherent)
    (hand : machine.AtHand ins) :
    machine.rouse.machine.status = .running ∧ machine.rouse.machine.current = ins := by
  have current : machine.rouse.machine.current = machine.current := rfl
  have status : machine.rouse.machine.status = machine.status.roused := rfl
  rw [status, current]
  cases hand with
  | next running here =>
    rw [running]
    exact ⟨rfl, here⟩
  | awaited waiting =>
    rw [waiting]
    exact ⟨rfl, (coherent.waiting _ waiting).2⟩

/-- An instruction at hand that does not wait in vain has the same effect when the machine has
forgotten what it waits for. -/
theorem AtHand.effect_rouse {ins : Instruction} (hand : machine.AtHand ins)
    (going : machine.waitsInVain ins = false) :
    (machine.effect ins).rouse.machine = machine.effect ins ∧
      machine.rouse.machine.effect ins = machine.effect ins := by
  cases hand with
  | next running here =>
    have awake := awake_of_running running
    rw [machine_rouse awake]
    exact ⟨machine_rouse (awake_effect awake going), rfl⟩
  | awaited waiting =>
    cases first : machine.keys.first? with
    | none =>
      rw [waitsInVain, first] at going
      cases going
    | some key =>
      have rousedFirst : machine.rouse.machine.keys.first? = some key := first
      rw [effect_awaitKey_held first, effect_awaitKey_held rousedFirst]
      exact ⟨rfl, rfl⟩

/-- Forgetting what one waits for commutes with a step of a coherent machine. -/
theorem rouse_step (coherent : machine.Coherent) :
    machine.rouse.step = (machine.step.outcome, machine.step.machine.rouse) := by
  rcases machine.hand_or_faulted with ⟨ins, hand⟩ | ⟨fault, stopped⟩
  · obtain ⟨outcomes, machines⟩ := step_of_hand hand
    obtain ⟨running, current⟩ := hand.rouse coherent
    rw [outcomes, machines, Refetcher.step_of_running running, current]
    cases going : machine.waitsInVain ins with
    | false =>
      obtain ⟨left, same⟩ := hand.effect_rouse going
      have goingOn : machine.rouse.machine.waitsInVain ins = false := going
      rw [Refetcher.execute_of_going goingOn, outcome_rouse]
      exact Prod.ext rfl (Refetcher.ext_machine (same.trans left.symm))
    | true =>
      cases ins with
      | awaitKey x =>
        have nobody : machine.keys.first? = none := Option.isNone_iff_eq_none.1 going
        have roused : machine.status.roused = .running := running
        rw [Refetcher.execute_of_idle nobody, outcome_awaitKey_idle nobody,
          effect_awaitKey_idle nobody]
        refine Prod.ext rfl (Refetcher.ext_machine ?_)
        show { machine with status := machine.status.roused } = { machine with status := .running }
        rw [roused]
      | _ => cases going
  · have awake : ∀ register, machine.status ≠ .awaitingKey register := by
      intro register waiting
      cases stopped.symm.trans waiting
    have same : machine.rouse.machine.status = .faulted fault := by
      rw [machine_rouse awake, stopped]
    rw [step_of_faulted stopped, Refetcher.step, same]

/-- Forgetting what one waits for commutes with every operation that executes nothing directly. -/
theorem rouse_perform {operation : Operation} (coherent : machine.Coherent)
    (stepwise : operation.Stepwise) :
    machine.rouse.perform operation =
      ((machine.perform operation).1, (machine.perform operation).2.rouse) := by
  cases operation with
  | step =>
    rw [Refetcher.perform, rouse_step coherent]
    rfl
  | execute => exact stepwise.elim
  | load program =>
    have awake := awake_of_running (machine.status_load program)
    exact Prod.ext rfl (Refetcher.ext_machine (machine_rouse awake).symm)
  | _ => rfl

/-- Everything but the status is the same, and a fault is met by both or by none. -/
structure Matches (machine other : Machine) : Prop where
  /-- They differ in the status at most. -/
  others : other = { machine with status := other.status }
  /-- They are stopped by the same fault, or by none. -/
  faulted : ∀ fault, other.status = .faulted fault ↔ machine.status = .faulted fault

/-- A machine matches itself when it has forgotten what it waits for. -/
theorem matches_rouse (machine : Machine) : machine.Matches machine.rouse.machine := by
  refine ⟨rfl, fun fault => ?_⟩
  show machine.status.roused = .faulted fault ↔ machine.status = .faulted fault
  cases machine.status with
  | awaitingKey register => exact ⟨nofun, nofun⟩
  | running => exact Iff.rfl
  | faulted other => exact Iff.rfl

open Operation (replies reached)

/-- A history of operations that execute nothing directly is answered alike by a coherent machine
and by the machine that has forgotten what it waits for, and it leads to matching states. -/
theorem lockstep_rouse {history : List Operation} (coherent : machine.Coherent)
    (stepwise : ∀ operation ∈ history, operation.Stepwise) :
    replies Machine.perform machine history =
        replies Refetcher.perform machine.rouse history ∧
      (machine.performAll history).Matches
        (reached Refetcher.perform machine.rouse history).machine := by
  have square : ∀ (machine : Machine) (refetcher : Refetcher) (operation : Operation),
      (machine.Coherent ∧ refetcher = machine.rouse) → operation.Stepwise →
        (machine.perform operation).1 = (refetcher.perform operation).1 ∧
          (machine.perform operation).2.Coherent ∧
            (refetcher.perform operation).2 = (machine.perform operation).2.rouse := by
    rintro machine refetcher operation ⟨coherent, rfl⟩ stepwise
    rw [rouse_perform coherent stepwise]
    exact ⟨rfl, coherent.perform stepwise, rfl⟩
  obtain ⟨answered, _, final⟩ := Operation.lockstep square ⟨coherent, rfl⟩
    (Operation.along_of_forall stepwise machine)
  rw [final]
  exact ⟨List.forall₂_eq_eq_eq ▸ answered, matches_rouse _⟩

/-- **Waiting is fetching again.** Let a running machine, whatever its memory holds, and the
refetcher of the same state perform the same history of steps, loads, resets and what a host does
in between. Every operation is answered alike, and at every moment the two agree in everything but
the status, and are stopped by the same fault or by none. -/
theorem refetching_agrees {start : Refetcher} {history : List Operation}
    (running : start.machine.status = .running)
    (stepwise : ∀ operation ∈ history, operation.Stepwise) :
    replies Machine.perform start.machine history = replies Refetcher.perform start history ∧
      ∀ moment, (start.machine.performAll (history.take moment)).Matches
        (reached Refetcher.perform start (history.take moment)).machine := by
  have coherent : start.machine.Coherent := .of_running running
  have same : start.machine.rouse = start := Refetcher.ext_machine (machine_rouse start.awake)
  refine ⟨?_, fun moment => ?_⟩
  · have answered := (lockstep_rouse coherent stepwise).1
    rwa [same] at answered
  · have started : ∀ operation ∈ history.take moment, operation.Stepwise :=
      fun operation member => stepwise operation (List.mem_of_mem_take member)
    have left := (lockstep_rouse coherent started).2
    rwa [same] at left

/-- A history in which the word F10A waits for a key, which the host presses after a tick. -/
def waitingHistory : List Operation :=
  [.load [0xF1, 0x0A, 0x00, 0x00], .step, .tick, .setKey 5 true, .step, .step]

/-- After two operations one machine waits and the other is running, yet both execute the wait at
the fifth operation and agree at every moment. -/
theorem refetching_waitingHistory :
    let start : Refetcher := ⟨initial, awake_of_running rfl⟩
    (replies Machine.perform initial waitingHistory).map Reply.executed? =
        [none, none, none, none, some (.awaitKey 1), none] ∧
      replies Machine.perform initial waitingHistory =
        replies Refetcher.perform start waitingHistory ∧
      (initial.performAll (waitingHistory.take 2)).status = .awaitingKey 1 ∧
      (reached Refetcher.perform start (waitingHistory.take 2)).machine.status = .running ∧
      (initial.performAll (waitingHistory.take 2)).Matches
        (reached Refetcher.perform start (waitingHistory.take 2)).machine := by
  intro start
  have running : start.machine.status = .running := rfl
  have stepwise : ∀ operation ∈ waitingHistory, operation.Stepwise := by decide
  obtain ⟨answered, agree⟩ := refetching_agrees running stepwise
  exact ⟨by decide +kernel, answered, by decide +kernel, by decide +kernel, agree 2⟩

end Machine

end Chip8
