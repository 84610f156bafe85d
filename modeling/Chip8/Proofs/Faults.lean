import Chip8.Proofs.Histories
import Chip8.Proofs.Patterns

/-!
# A fault is final

A running machine that comes upon a word that is no instruction stops, and nothing but its status
tells so. From then on a step does nothing but repeat the fault, and so does whatever a host does
to the machine short of loading, resetting or executing an instruction directly: timers, keys, the
shift operand, the random source and the mark of the picture may change, but what programs depend
on stays as the fault found it (`fault_is_final`). A run still ticks, latches and publishes before
it finds out, which it does at the first look that begins an instruction (`fault_polls`).
-/
namespace Chip8

namespace Machine

/-- What a host can make of a machine by stepping it, by anything that happens between two steps,
by bringing panels up to date and by running it against clocks. -/
inductive Handled (machine : Machine) : Machine → Prop
  /-- Nothing has happened yet. -/
  | start : Handled machine machine
  /-- A step, or something that happens between two steps. -/
  | perform {after : Machine} {operation : Operation} (handled : Handled machine after)
    (allowed : operation = .step ∨ operation.Between) :
    Handled machine (after.perform operation).2
  /-- A panel is brought up to date. -/
  | sync {after : Machine} (panel : Panel) (handled : Handled machine after) :
    Handled machine (panel.sync after).2
  /-- A run against a clock. -/
  | attended {after : Machine} (settings : Settings) (moment : Int) (looks : List Look)
    (panel : Panel) (handled : Handled machine after) :
    Handled machine (Run.attended settings moment looks after panel).machine

variable {machine : Machine} {fault : Fault}

/-- A machine that met a fault is disturbed neither by a step nor by what happens between two
steps. -/
theorem undisturbed_perform {operation : Operation} (stopped : machine.status = .faulted fault)
    (allowed : operation = .step ∨ operation.Between) :
    machine.Undisturbed (machine.perform operation).2 := by
  rcases allowed with rfl | between
  · show machine.Undisturbed machine.step.machine
    rw [step_of_faulted stopped]
    exact .refl machine
  · exact machine.perform_between between

/-- Nor is it by any number of them. -/
theorem undisturbed_performAll {history : List Operation}
    (stopped : machine.status = .faulted fault)
    (allowed : ∀ operation ∈ history, operation = .step ∨ operation.Between) :
    machine.Undisturbed (machine.performAll history) :=
  performAll_keeps machine.Undisturbed (.refl machine) fun _ kept operation member =>
    kept.trans (undisturbed_perform (kept.status.trans stopped) (allowed operation member))

/-- Nor is it by a run. -/
theorem undisturbed_attended (stopped : machine.status = .faulted fault) (settings : Settings)
    (moment : Int) (looks : List Look) (panel : Panel) :
    machine.Undisturbed (Run.attended settings moment looks machine panel).machine := by
  have chosen : machine.Undisturbed (machine.withShift settings.shift) :=
    ⟨rfl, rfl, rfl, rfl, rfl, rfl, rfl⟩
  refine Run.attended_keeps machine.Undisturbed chosen (fun _ kept operation paced => ?_)
    moment looks panel
  exact kept.trans (undisturbed_perform (kept.status.trans stopped) paced.step_or_between)

/-- However a host handles a machine that met a fault, it stays undisturbed. -/
theorem Handled.undisturbed {after : Machine} (handled : machine.Handled after)
    (stopped : machine.status = .faulted fault) : machine.Undisturbed after := by
  induction handled with
  | start => exact .refl machine
  | perform _ allowed kept =>
    exact kept.trans (undisturbed_perform (kept.status.trans stopped) allowed)
  | sync panel _ kept => exact kept.trans ⟨rfl, rfl, rfl, rfl, rfl, rfl, rfl⟩
  | attended settings moment looks panel _ kept =>
    exact kept.trans (undisturbed_attended (kept.status.trans stopped) settings moment looks panel)

end Machine

namespace Schedule

/-- Some look begins an instruction: one is due by then, and the run is not cancelled before it. -/
def begins : Schedule → List Look → Bool
  | _, [] => false
  | cpu, look :: later =>
    look.begun (cpu.due look.now).count != 0 || (cpu.due look.now).schedule.begins later

end Schedule

/-- Where no instruction is due none begins. -/
theorem Look.begun_zero (look : Look) : look.begun 0 = 0 := by
  unfold begun
  cases look.allowed with
  | none => rfl
  | some count => exact Nat.min_zero count

namespace Run

variable {fault : Fault}

/-- A batch of a machine that met a fault reports it as soon as it begins an instruction. -/
theorem fault_batch {machine : Machine} (stopped : machine.status = .faulted fault) (look : Look)
    (due : Nat) :
    (batch machine look due).2 = if look.begun due != 0 then some fault else none := by
  rw [batch]
  by_cases zero : due = 0
  · rw [if_pos zero, zero, look.begun_zero]
    rfl
  · rw [if_neg zero]
    -- Latching the keys does not wake the machine, so its first step repeats the fault.
    have latched : (machine.latch look.keys).status = .faulted fault := stopped
    have reported : (machine.latch look.keys).step.outcome = .faulted fault := by
      rw [Machine.step_of_faulted latched]
    cases look.begun due with
    | zero => rfl
    | succ count =>
      rw [Machine.steps_succ_of_faulted reported]
      rfl

/-- A look at a machine that met a fault reports it if it begins an instruction. -/
theorem fault_poll (run : Run) (stopped : run.machine.status = .faulted fault) (look : Look) :
    (run.poll look).2 =
      if look.begun (run.cpu.due look.now).count != 0 then some fault else none := by
  have ticked : (run.machine.ticks (run.timers.due look.now).count).status = .faulted fault := by
    rw [Machine.ticks_eq]
    refine (Machine.undisturbed_performAll stopped fun operation member => ?_).status.trans stopped
    rw [(List.mem_replicate.1 member).2]
    exact .inr trivial
  exact fault_batch ticked look _

/-- Looks at a machine that met a fault report that fault at the first instruction they begin, and
nothing if they begin none. -/
theorem fault_polls (run : Run) (stopped : run.machine.status = .faulted fault)
    (looks : List Look) :
    (run.polls looks).2 = if run.cpu.begins looks then some fault else none := by
  induction looks generalizing run with
  | nil => rfl
  | cons look later inductionHypothesis =>
    have reported := run.fault_poll stopped look
    rw [Schedule.begins]
    cases begun : look.begun (run.cpu.due look.now).count != 0 with
    | true =>
      rw [begun] at reported
      rw [polls_cons_of_fault reported, reported]
      rfl
    | false =>
      rw [begun] at reported
      have kept : (run.poll look).1.machine.status = .faulted fault := by
        rw [machine_poll]
        exact (Machine.undisturbed_performAll stopped fun operation member =>
          (mem_lookOperations member).step_or_between).status.trans stopped
      rw [polls_cons_of_fine reported, inductionHypothesis _ kept, Bool.false_or]
      rfl

/-- The looks of a run begin an instruction. -/
def begins (settings : Settings) (moment : Int) (looks : List Look) : Bool :=
  (Schedule.start settings.cpuPeriod moment settings.catchUp).begins looks

end Run

namespace Machine

/-- The later machine is as the earlier one was when it met its fault, and can do nothing but
repeat that fault. -/
structure Frozen (before : Machine) (fault : Fault) (after : Machine) : Prop where
  /-- The machine is stopped by the fault. -/
  status : after.status = .faulted fault
  /-- What programs depend on is as it was. -/
  undisturbed : before.Undisturbed after
  /-- A step repeats the fault and changes nothing. -/
  step : after.step.outcome = .faulted fault ∧ after.step.machine = after
  /-- A run repeats the fault when it begins an instruction, and otherwise is cancelled before. -/
  attended : ∀ settings moment looks panel,
    (Run.attended settings moment looks after panel).fault =
      if Run.begins settings moment looks then some fault else none

/-- **A fault is final.** A running machine that comes upon a word that is no instruction reports
that word and its address, and changes nothing but its status. From then on, however a host steps
it, handles it between steps, brings panels up to date and runs it against clocks, the machine
stays frozen: every step and every run that begins an instruction gives that same fault. -/
theorem fault_is_final (machine : Machine) :
    (∀ word, machine.status = .running → machine.current = .unimplemented word →
      word = machine.fetch ∧ machine.step.outcome = .faulted ⟨word, machine.pc⟩ ∧
        machine.step.machine = { machine with status := .faulted ⟨word, machine.pc⟩ }) ∧
    ∀ fault after, machine.status = .faulted fault → machine.Handled after →
      machine.Frozen fault after := by
  constructor
  · intro word running here
    obtain ⟨outcome, left⟩ := step_of_hand (.next running here)
    exact ⟨(Instruction.decode_eq_unimplemented_iff.1 here).1, outcome, left⟩
  · intro fault after stopped handled
    have undisturbed := handled.undisturbed stopped
    have status : after.status = .faulted fault := undisturbed.status.trans stopped
    refine ⟨status, undisturbed, ?_, ?_⟩
    · rw [step_of_faulted status]
      exact ⟨rfl, rfl⟩
    · intro settings moment looks panel
      exact Run.fault_polls (Run.start settings moment after panel) status looks

/-- A machine that was loaded with the word FFFF alone. -/
def strayed : Machine := (initial.perform (.load [0xFF, 0xFF])).2

/-- That machine after a step, a tick and a run in which two instructions become due. -/
def strayedRun : RunEnd :=
  Run.attended Settings.default 0 [Look.quiet Keypad.released 4000000]
    (strayed.step.machine.perform .tick).2 Panel.initial

/-- A running machine that comes upon FFFF stops there, and a tick and a run leave it frozen; the
run gives the same fault as the step. -/
theorem fault_is_final_strayed :
    (strayed.status = .running ∧ strayed.current = .unimplemented 0xFFFF) ∧
      strayed.step.outcome = .faulted ⟨0xFFFF, 0x200⟩ ∧
      strayed.step.machine = { strayed with status := .faulted ⟨0xFFFF, 0x200⟩ } ∧
      strayedRun.fault = some ⟨0xFFFF, 0x200⟩ ∧
      strayed.step.machine.Frozen ⟨0xFFFF, 0x200⟩ strayedRun.machine := by
  have running : strayed.status = .running := by decide +kernel
  have here : strayed.current = .unimplemented 0xFFFF := by decide +kernel
  have address : strayed.pc = 0x200 := by decide +kernel
  have fault : strayedRun.fault = some ⟨0xFFFF, 0x200⟩ := by decide +kernel
  obtain ⟨-, outcome, left⟩ := (fault_is_final strayed).1 0xFFFF running here
  rw [address] at outcome left
  have stopped : strayed.step.machine.status = .faulted ⟨0xFFFF, 0x200⟩ := by rw [left]
  have handled : strayed.step.machine.Handled strayedRun.machine :=
    .attended _ _ _ _ (.perform .start (.inr trivial))
  have frozen := (fault_is_final strayed.step.machine).2 _ _ stopped handled
  exact ⟨⟨running, here⟩, outcome, left, fault, frozen⟩

end Machine

end Chip8
