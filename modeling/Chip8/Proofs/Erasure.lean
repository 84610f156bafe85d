import Chip8.Proofs.Effects

/-!
# What timers and the mark of the picture can influence

Programs read the delay timer by one instruction and the mark of the picture by none. Erasing
them from a machine therefore commutes with every instruction except that one (`untimed_effect`,
`bare_effect`). Machines that agree on address, memory, status and keys have the same instruction
at hand and tell the host the same (`Aligned.step`), so erasing commutes with a step
(`step_of_untimed_eq`, `step_of_bare_eq`) and with any number of steps (`steps_of_bare_eq`).
-/
namespace Chip8.Machine

variable {machine left right : Machine}

/-- The machine with both timers at zero. -/
def untimed (machine : Machine) : Machine := { machine with timers := Timers.zero }

/-- The machine with a picture that nobody waits for. -/
def unmarked (machine : Machine) : Machine :=
  { machine with screen := { machine.screen with dirty := false } }

/-- The machine without timers and without the mark of the picture. -/
def bare (machine : Machine) : Machine := machine.untimed.unmarked

/-- Timers matter to no instruction but the one that reads the delay timer. -/
theorem untimed_effect {ins : Instruction} (timeless : ∀ x, ins ≠ .readDelay x) :
    (machine.untimed.effect ins).untimed = (machine.effect ins).untimed := by
  rw [effect_eq_merged, effect_eq_merged]
  cases ins with
  | readDelay x => exact absurd rfl (timeless x)
  | _ => rfl

/-- The mark of the picture matters to no instruction. -/
theorem unmarked_effect (machine : Machine) (ins : Instruction) :
    (machine.unmarked.effect ins).unmarked = (machine.effect ins).unmarked := by
  rw [effect_eq_merged, effect_eq_merged]
  cases ins with
  | _ => rfl

/-- Neither matters to any instruction but the one that reads the delay timer. -/
theorem bare_effect {ins : Instruction} (timeless : ∀ x, ins ≠ .readDelay x) :
    (machine.bare.effect ins).bare = (machine.effect ins).bare := by
  calc (machine.bare.effect ins).bare
    _ = (machine.untimed.unmarked.effect ins).unmarked.untimed := rfl
    _ = (machine.untimed.effect ins).unmarked.untimed := by rw [unmarked_effect]
    _ = (machine.untimed.effect ins).untimed.unmarked := rfl
    _ = (machine.effect ins).untimed.unmarked := by rw [untimed_effect timeless]

/-- Two machines that go on at the same address of the same memory, with the same status and the
same keys. -/
structure Aligned (left right : Machine) : Prop where
  /-- They go on at the same address. -/
  pc : left.pc = right.pc
  /-- They can go on in the same way. -/
  status : left.status = right.status
  /-- They have latched the same keys. -/
  keys : left.keys = right.keys
  /-- They have the same memory. -/
  memory : left.memory = right.memory

/-- Machines that differ in timers and mark alone are aligned. -/
theorem Aligned.of_bare_eq (same : left.bare = right.bare) : left.Aligned right where
  pc := congrArg (fun machine => machine.pc) same
  status := congrArg (fun machine => machine.status) same
  keys := congrArg (fun machine => machine.keys) same
  memory := congrArg (fun machine => machine.memory) same

/-- Machines that differ in timers alone are aligned. -/
theorem Aligned.of_untimed_eq (same : left.untimed = right.untimed) : left.Aligned right :=
  .of_bare_eq (congrArg unmarked same)

/-- Aligned machines tell the host the same of every instruction. -/
theorem Aligned.outcome (aligned : left.Aligned right) (ins : Instruction) :
    left.outcome ins = right.outcome ins := by
  cases ins with
  | awaitKey x => simp only [Machine.outcome, aligned.keys]
  | unimplemented word => simp only [Machine.outcome, aligned.pc]
  | _ => rfl

/-- Aligned machines have the same instruction at hand. -/
theorem Aligned.hand {ins : Instruction} (aligned : left.Aligned right)
    (hand : right.AtHand ins) : left.AtHand ins := by
  cases hand with
  | next running here =>
    have current : left.current = right.current := by
      rw [current, current, fetch, fetch, aligned.pc, aligned.memory]
    exact .next (aligned.status.trans running) (current.trans here)
  | awaited waiting => exact .awaited (aligned.status.trans waiting)

/-- Aligned machines take steps with the same outcome. Two that an erasure makes equal are made
equal again after the step, if they are after the instruction at hand. -/
theorem Aligned.step {erase : Machine → Machine} (aligned : left.Aligned right)
    (same : erase left = erase right) :
    left.step.outcome = right.step.outcome ∧
      ((∀ ins, right.AtHand ins → erase (left.effect ins) = erase (right.effect ins)) →
        erase left.step.machine = erase right.step.machine) := by
  rcases right.hand_or_faulted with ⟨ins, hand⟩ | ⟨fault, stopped⟩
  · obtain ⟨leftOutcome, leftMachine⟩ := step_of_hand (aligned.hand hand)
    obtain ⟨rightOutcome, rightMachine⟩ := step_of_hand hand
    rw [leftOutcome, leftMachine, rightOutcome, rightMachine]
    exact ⟨aligned.outcome ins, fun effects => effects ins hand⟩
  · rw [step_of_faulted stopped, step_of_faulted (aligned.status.trans stopped)]
    exact ⟨rfl, fun _ => same⟩

/-- What a step that reads no delay timer has at hand does not read it. -/
theorem timeless_of_hand {ins : Instruction} (hand : machine.AtHand ins)
    (timeless : ∀ x, machine.step.outcome.executed? ≠ some (.readDelay x)) (x : UInt8) :
    ins ≠ .readDelay x := by
  rintro rfl
  refine timeless x ?_
  rw [(step_of_hand hand).1]
  rfl

/-- What no timer influences is the same of machines that differ in timers alone. -/
theorem observe_of_untimed_eq {Observed : Type} (observe : Machine → Observed)
    (blind : ∀ machine, observe machine.untimed = observe machine)
    (same : left.untimed = right.untimed) : observe left = observe right := by
  rw [← blind left, same, blind right]

/-- Machines that differ in timers alone take the same step, and then still do, unless the step
reads the delay timer. -/
theorem step_of_untimed_eq (same : left.untimed = right.untimed) :
    left.step.outcome = right.step.outcome ∧
      ((∀ x, right.step.outcome.executed? ≠ some (.readDelay x)) →
        left.step.machine.untimed = right.step.machine.untimed) := by
  obtain ⟨outcomes, machines⟩ := (Aligned.of_untimed_eq same).step same
  refine ⟨outcomes, fun timeless => machines fun ins hand => ?_⟩
  have plain := timeless_of_hand hand timeless
  rw [← untimed_effect plain, same, untimed_effect plain]

/-- Machines that differ in timers and mark alone take the same step, and then still do, unless the
step reads the delay timer. -/
theorem step_of_bare_eq (same : left.bare = right.bare) :
    left.step.outcome = right.step.outcome ∧
      ((∀ x, right.step.outcome.executed? ≠ some (.readDelay x)) →
        left.step.machine.bare = right.step.machine.bare) := by
  obtain ⟨outcomes, machines⟩ := (Aligned.of_bare_eq same).step same
  refine ⟨outcomes, fun timeless => machines fun ins hand => ?_⟩
  have plain := timeless_of_hand hand timeless
  rw [← bare_effect plain, same, bare_effect plain]

/-- Machines that differ in timers and mark alone execute the same instructions in any number of
steps, and then still differ in nothing else, as long as the delay timer is not read. -/
theorem steps_of_bare_eq (same : left.bare = right.bare) (count : Nat)
    (timeless : ∀ x, .readDelay x ∉ right.executed (List.replicate count .step)) :
    left.executed (List.replicate count .step) = right.executed (List.replicate count .step) ∧
      (left.performAll (List.replicate count .step)).bare =
        (right.performAll (List.replicate count .step)).bare := by
  induction count generalizing left right with
  | zero => exact ⟨rfl, same⟩
  | succ count inductionHypothesis =>
    obtain ⟨outcomes, machines⟩ := step_of_bare_eq same
    rw [List.replicate_succ] at timeless ⊢
    have first : ∀ x, right.step.outcome.executed? ≠ some (.readDelay x) := by
      intro x executed
      refine timeless x (List.mem_append_left _ ?_)
      exact Option.mem_toList.2 executed
    have later : ∀ x, .readDelay x ∉ right.step.machine.executed (List.replicate count .step) :=
      fun x member => timeless x (List.mem_append_right _ member)
    obtain ⟨executed, left⟩ := inductionHypothesis (machines first) later
    refine ⟨?_, left⟩
    rw [Machine.executed, Machine.executed, perform, perform, outcomes, executed]

end Chip8.Machine
