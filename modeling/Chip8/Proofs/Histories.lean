import Chip8.Proofs.Effects

/-!
# Runs are histories

A run against a clock does nothing to its machine that a host could not do by hand: the machine
that it leaves is the machine after the history `Run.operations` (`machine_polls`), which
consists of ticks, latched keys, steps and pictures taken (`mem_operations`). A batch of steps
is that many steps, because a machine that met a fault stays as it is (`steps_machine`).
-/
namespace Chip8

namespace Machine

variable {machine : Machine}

/-- Ticking a number of times is a history. -/
theorem ticks_eq (machine : Machine) (count : Nat) :
    machine.ticks count = machine.performAll (List.replicate count .tick) := by
  induction count generalizing machine with
  | zero => rfl
  | succ count inductionHypothesis =>
    rw [ticks, inductionHypothesis, List.replicate_succ, performAll_cons]
    rfl

/-- A step reports a fault exactly when it leaves the machine stopped by that fault. -/
theorem outcome_step_eq_faulted_iff (machine : Machine) (fault : Fault) :
    machine.step.outcome = .faulted fault ↔ machine.step.machine.status = .faulted fault := by
  have cases := machine.step_cases
  generalize machine.step.outcome = outcome, machine.step.machine = after at cases
  cases cases with
  | executed hand running =>
    rw [running]
    exact ⟨nofun, nofun⟩
  | waiting hand nobody => exact ⟨nofun, nofun⟩
  | faulted running here =>
    simp only [Outcome.faulted.injEq, Status.faulted.injEq]
  | halted stopped =>
    rw [stopped]
    simp only [Outcome.faulted.injEq, Status.faulted.injEq]

/-- Steps of a machine that met a fault are idle. -/
theorem performAll_steps_of_faulted {fault : Fault} (stopped : machine.status = .faulted fault)
    (count : Nat) : machine.performAll (List.replicate count .step) = machine := by
  induction count with
  | zero => rfl
  | succ count inductionHypothesis =>
    rw [List.replicate_succ, performAll_cons, perform, step_of_faulted stopped]
    exact inductionHypothesis

/-- Steps of a machine that met a fault execute nothing. -/
theorem executed_steps_of_faulted {fault : Fault} (stopped : machine.status = .faulted fault)
    (count : Nat) : machine.executed (List.replicate count .step) = [] := by
  induction count with
  | zero => rfl
  | succ count inductionHypothesis =>
    rw [List.replicate_succ, executed, perform, step_of_faulted stopped]
    exact inductionHypothesis

/-- A batch ends at a step that reports a fault. -/
theorem steps_succ_of_faulted {fault : Fault} (reported : machine.step.outcome = .faulted fault)
    (count : Nat) : machine.steps (count + 1) = (machine.step.machine, some fault) := by
  rw [steps]
  generalize machine.step = turn at reported ⊢
  obtain ⟨outcome, after, notes⟩ := turn
  dsimp only at reported
  rw [reported]

/-- A batch goes on after a step that reports no fault. -/
theorem steps_succ_of_fine (fine : ∀ fault, machine.step.outcome ≠ .faulted fault)
    (count : Nat) : machine.steps (count + 1) = machine.step.machine.steps count := by
  rw [steps]
  generalize machine.step = turn at fine ⊢
  obtain ⟨outcome, after, notes⟩ := turn
  cases outcome with
  | faulted fault => exact absurd rfl (fine fault)
  | _ => rfl

/-- Whatever a batch reports, it leaves the machine as that many steps leave it. -/
theorem steps_machine (machine : Machine) (count : Nat) :
    (machine.steps count).1 = machine.performAll (List.replicate count .step) := by
  induction count generalizing machine with
  | zero => rfl
  | succ count inductionHypothesis =>
    rw [List.replicate_succ, performAll_cons, perform]
    by_cases reported : ∃ fault, machine.step.outcome = .faulted fault
    · obtain ⟨fault, reported⟩ := reported
      have stopped := (machine.outcome_step_eq_faulted_iff fault).1 reported
      rw [steps_succ_of_faulted reported, performAll_steps_of_faulted stopped]
    · rw [steps_succ_of_fine fun fault same => reported ⟨fault, same⟩]
      exact inductionHypothesis _

/-- A batch that reports a fault leaves the machine stopped by it. -/
theorem status_of_steps {fault : Fault} {count : Nat}
    (met : (machine.steps count).2 = some fault) :
    (machine.steps count).1.status = .faulted fault := by
  induction count generalizing machine with
  | zero => cases met
  | succ count inductionHypothesis =>
    by_cases reported : ∃ other, machine.step.outcome = .faulted other
    · obtain ⟨other, reported⟩ := reported
      rw [steps_succ_of_faulted reported] at met ⊢
      obtain rfl := Option.some.inj met
      exact (machine.outcome_step_eq_faulted_iff other).1 reported
    · have fine : ∀ other, machine.step.outcome ≠ .faulted other :=
        fun other same => reported ⟨other, same⟩
      rw [steps_succ_of_fine fine] at met ⊢
      exact inductionHypothesis met

end Machine

namespace Run

/-- The machine as a look leaves it before the panel is brought up to date. -/
def worked (run : Run) (look : Look) : Machine :=
  run.machine.performAll (run.workOperations look)

/-- The ticks and the instructions of a look are its operations. -/
theorem batch_eq (run : Run) (look : Look) :
    (batch (run.machine.ticks (run.timers.due look.now).count) look
      (run.cpu.due look.now).count).1 = run.worked look := by
  rw [worked, workOperations, Machine.performAll_append, Machine.ticks_eq, batch]
  split
  · rfl
  · rw [Machine.steps_machine]
    rfl

/-- A look leaves the machine as its operations leave it. -/
theorem machine_poll (run : Run) (look : Look) :
    (run.poll look).1.machine = run.machine.performAll (run.lookOperations look) := by
  rw [lookOperations, Machine.performAll_append]
  show _ = (run.worked look).takeFrame.2
  rw [← batch_eq]
  rfl

/-- A look brings the panel that the host used up to date. -/
theorem panel_poll (run : Run) (look : Look) :
    (run.poll look).1.panel = ((look.used run.panel).sync (run.worked look)).1 := by
  rw [← batch_eq]
  rfl

/-- A look that reports a fault has made instructions due and leaves the machine stopped by that
fault. -/
theorem status_of_fault {run : Run} {look : Look} {fault : Fault}
    (met : (run.poll look).2 = some fault) :
    (run.cpu.due look.now).count ≠ 0 ∧ (run.poll look).1.machine.status = .faulted fault := by
  have left : (run.poll look).1.machine.status = (run.worked look).status := by
    rw [machine_poll, lookOperations, Machine.performAll_append]
    rfl
  have reported : (batch (run.machine.ticks (run.timers.due look.now).count) look
      (run.cpu.due look.now).count).2 = some fault := met
  have machine := run.batch_eq look
  rw [left, ← machine]
  unfold batch at reported ⊢
  split at reported
  · cases reported
  · rename_i due
    rw [if_neg due]
    exact ⟨due, Machine.status_of_steps reported⟩

/-- A look that meets no fault is followed by the next one. -/
theorem polls_cons_of_fine {run : Run} {look : Look} (fine : (run.poll look).2 = none)
    (later : List Look) : run.polls (look :: later) = (run.poll look).1.polls later := by
  rw [polls]
  generalize run.poll look = polled at fine ⊢
  obtain ⟨after, fault⟩ := polled
  dsimp only at fine
  rw [fine]

/-- A look that meets a fault is the last one. -/
theorem polls_cons_of_fault {run : Run} {look : Look} {fault : Fault}
    (met : (run.poll look).2 = some fault) (later : List Look) :
    run.polls (look :: later) = run.poll look := by
  rw [polls]
  generalize run.poll look = polled at met ⊢
  obtain ⟨after, reported⟩ := polled
  dsimp only at met
  rw [met]

/-- The operations of a look that meets no fault are followed by those of the next one. -/
theorem operations_cons_of_fine {run : Run} {look : Look} (fine : (run.poll look).2 = none)
    (later : List Look) :
    run.operations (look :: later) =
      run.lookOperations look ++ (run.poll look).1.operations later := by
  rw [operations]
  generalize run.poll look = polled at fine ⊢
  obtain ⟨after, fault⟩ := polled
  dsimp only at fine
  rw [fine]

/-- The operations of a look that meets a fault are the last ones. -/
theorem operations_cons_of_fault {run : Run} {look : Look} {fault : Fault}
    (met : (run.poll look).2 = some fault) (later : List Look) :
    run.operations (look :: later) = run.lookOperations look := by
  rw [operations]
  generalize run.poll look = polled at met ⊢
  obtain ⟨after, reported⟩ := polled
  dsimp only at met
  rw [met]
  exact List.append_nil _

/-- A run leaves its machine as its operations leave it. -/
theorem machine_polls (run : Run) (looks : List Look) :
    (run.polls looks).1.machine = run.machine.performAll (run.operations looks) := by
  induction looks generalizing run with
  | nil => rfl
  | cons look later inductionHypothesis =>
    cases met : (run.poll look).2 with
    | none =>
      rw [polls_cons_of_fine met, operations_cons_of_fine met, inductionHypothesis,
        Machine.performAll_append, machine_poll]
    | some fault =>
      rw [polls_cons_of_fault met, operations_cons_of_fault met, machine_poll]

/-- Before the panel is brought up to date a look steps, ticks and latches the keys. -/
theorem mem_workOperations {run : Run} {look : Look} {operation : Operation}
    (member : operation ∈ run.workOperations look) : operation.Paced ∧ operation ≠ .takeFrame := by
  rw [workOperations, List.mem_append] at member
  rcases member with ticks | batch
  · rw [(List.mem_replicate.1 ticks).2]
    exact ⟨trivial, nofun⟩
  · split at batch
    · cases batch
    · rcases List.mem_cons.1 batch with rfl | steps
      · exact ⟨trivial, nofun⟩
      · rw [(List.mem_replicate.1 steps).2]
        exact ⟨trivial, nofun⟩

/-- A look also takes the picture. -/
theorem mem_lookOperations {run : Run} {look : Look} {operation : Operation}
    (member : operation ∈ run.lookOperations look) : operation.Paced := by
  rcases List.mem_append.1 member with work | take
  · exact (mem_workOperations work).1
  · rw [List.mem_singleton.1 take]
    trivial

/-- A run does nothing else. -/
theorem mem_operations {run : Run} {looks : List Look} {operation : Operation}
    (member : operation ∈ run.operations looks) : operation.Paced := by
  induction looks generalizing run with
  | nil => cases member
  | cons look later inductionHypothesis =>
    cases met : (run.poll look).2 with
    | none =>
      rw [operations_cons_of_fine met] at member
      rcases List.mem_append.1 member with first | rest
      · exact mem_lookOperations first
      · exact inductionHypothesis rest
    | some fault =>
      rw [operations_cons_of_fault met] at member
      exact mem_lookOperations member

/-- What every operation of a run keeps, the run keeps, once its shift operand is chosen. -/
theorem attended_keeps (Kept : Machine → Prop) {settings : Settings} {machine : Machine}
    (begun : Kept (machine.withShift settings.shift))
    (each : ∀ machine, Kept machine → ∀ operation : Operation, operation.Paced →
      Kept (machine.perform operation).2)
    (moment : Int) (looks : List Look) (panel : Panel) :
    Kept (attended settings moment looks machine panel).machine := by
  show Kept ((start settings moment machine panel).polls looks).1.machine
  rw [machine_polls]
  exact Machine.performAll_keeps Kept begun fun machine kept operation member =>
    each machine kept operation (mem_operations member)

end Run

end Chip8
