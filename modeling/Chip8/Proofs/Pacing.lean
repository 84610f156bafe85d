import Chip8.Proofs.Erasure
import Chip8.Proofs.Publishing

/-!
# Pacing does not show

A run against a clock cuts the steps of its machine into batches, with ticks of the timers, a
latching of the keys and a look at the panel in between. None of this shows in what the machine
does, as long as the keys of the host stay the same and the program does not read the delay
timer: a run that ends with a fault has executed exactly the instructions that plain stepping
executes up to its fault, and leaves the same machine, but for timers and the mark of the
picture (`attended_follows_steps`). The readings of the clock are arbitrary; they may even go
back.
-/
namespace Chip8

open Instruction (Drawn)

namespace Machine

variable {machine left right : Machine}

/-- Latching the keys that are latched already changes nothing. -/
theorem latch_of_held {keys : Keypad} (held : machine.keys = keys) :
    machine.latch keys = machine := by
  subst held
  rfl

/-- Steps do not change the keys. -/
theorem keys_steps (machine : Machine) (count : Nat) :
    (machine.performAll (List.replicate count .step)).keys = machine.keys := by
  induction count generalizing machine with
  | zero => rfl
  | succ count inductionHypothesis =>
    rw [List.replicate_succ, performAll_cons, inductionHypothesis]
    exact machine.host_step.1

/-- Ticks matter to timers alone. -/
theorem bare_ticks (machine : Machine) (keys : Keypad) (count : Nat) :
    ((machine.performAll (List.replicate count .tick)).latch keys).bare =
      (machine.latch keys).bare := by
  induction count generalizing machine with
  | zero => rfl
  | succ count inductionHypothesis =>
    rw [List.replicate_succ, performAll_cons, inductionHypothesis]
    rfl

/-- Ticks execute nothing. -/
theorem executed_ticks (machine : Machine) (count : Nat) :
    machine.executed (List.replicate count .tick) = [] := by
  induction count generalizing machine with
  | zero => rfl
  | succ count inductionHypothesis =>
    rw [List.replicate_succ, executed, inductionHypothesis]
    rfl

/-- Once some number of steps meets a fault, a larger number executes nothing more and leaves the
same machine. -/
theorem steps_beyond {fault : Fault} {count : Nat}
    (stopped : (machine.performAll (List.replicate count .step)).status = .faulted fault)
    (more : Nat) :
    machine.executed (List.replicate (count + more) .step) =
        machine.executed (List.replicate count .step) ∧
      machine.performAll (List.replicate (count + more) .step) =
        machine.performAll (List.replicate count .step) := by
  rw [← List.replicate_append_replicate, executed_append, performAll_append,
    executed_steps_of_faulted stopped, performAll_steps_of_faulted stopped]
  exact ⟨List.append_nil _, rfl⟩

/-- Two numbers of steps that both meet a fault execute the same instructions and leave the same
machine. -/
theorem steps_agree {first second : Nat} {firstFault secondFault : Fault}
    (firstStopped :
      (machine.performAll (List.replicate first .step)).status = .faulted firstFault)
    (secondStopped :
      (machine.performAll (List.replicate second .step)).status = .faulted secondFault) :
    machine.executed (List.replicate first .step) =
        machine.executed (List.replicate second .step) ∧
      machine.performAll (List.replicate first .step) =
        machine.performAll (List.replicate second .step) := by
  rcases Nat.le_total first second with below | below
  · obtain ⟨more, rfl⟩ := Nat.exists_eq_add_of_le below
    obtain ⟨executed, left⟩ := steps_beyond firstStopped more
    exact ⟨executed.symm, left.symm⟩
  · obtain ⟨more, rfl⟩ := Nat.exists_eq_add_of_le below
    exact steps_beyond secondStopped more

/-- A program that reads the delay timer in no number of steps. -/
def Timeless (machine : Machine) : Prop :=
  ∀ count x, .readDelay x ∉ machine.executed (List.replicate count .step)

/-- What does not read the delay timer before it meets a fault never reads it. -/
theorem timeless_of_faulted {fault : Fault} {count : Nat}
    (stopped : (machine.performAll (List.replicate count .step)).status = .faulted fault)
    (unread : ∀ x, .readDelay x ∉ machine.executed (List.replicate count .step)) :
    machine.Timeless := by
  intro other x member
  rcases Nat.le_total count other with below | below
  · obtain ⟨more, rfl⟩ := Nat.exists_eq_add_of_le below
    rw [(steps_beyond stopped more).1] at member
    exact unread x member
  · obtain ⟨more, rfl⟩ := Nat.exists_eq_add_of_le below
    refine unread x ?_
    rw [← List.replicate_append_replicate, executed_append]
    exact List.mem_append_left _ member

/-- After some steps a program still does not read the delay timer. -/
theorem Timeless.steps (timeless : machine.Timeless) (count : Nat) :
    (machine.performAll (List.replicate count .step)).Timeless := by
  intro more x member
  refine timeless (count + more) x ?_
  rw [← List.replicate_append_replicate, executed_append]
  exact List.mem_append_right _ member

/-- Machines that agree on all but timers and the mark of the picture. -/
structure Agree (left right : Machine) : Prop where
  /-- They go on at the same address. -/
  pc : left.pc = right.pc
  /-- They have the same index. -/
  index : left.index = right.index
  /-- They have the same registers. -/
  registers : left.registers = right.registers
  /-- They have the same stack. -/
  stack : left.stack = right.stack
  /-- They can go on in the same way. -/
  status : left.status = right.status
  /-- They have latched the same keys. -/
  keys : left.keys = right.keys
  /-- Their shifts read the same register. -/
  shift : left.shift = right.shift
  /-- They draw the same random bytes. -/
  random : left.random = right.random
  /-- They have the same memory. -/
  memory : left.memory = right.memory
  /-- They show the same picture. -/
  pixels : left.screen.pixels = right.screen.pixels

/-- Machines without timers and mark are equal when the machines agree otherwise. -/
theorem Agree.of_bare_eq (same : left.bare = right.bare) : left.Agree right where
  pc := congrArg (fun machine => machine.pc) same
  index := congrArg (fun machine => machine.index) same
  registers := congrArg (fun machine => machine.registers) same
  stack := congrArg (fun machine => machine.stack) same
  status := congrArg (fun machine => machine.status) same
  keys := congrArg (fun machine => machine.keys) same
  shift := congrArg (fun machine => machine.shift) same
  random := congrArg (fun machine => machine.random) same
  memory := congrArg (fun machine => machine.memory) same
  pixels := congrArg (fun machine => machine.screen.pixels) same

end Machine

namespace Run

variable {keys : Keypad} {reference : Machine}

/-- Before the panel is brought up to date, a look of a host that holds the same keys and does
not cancel executes what the due number of steps executes after the keys were latched. -/
theorem worked_follows (run : Run) {look : Look} {due : Nat} (steady : look.keys = keys)
    (uncancelled : look.allowed = none) (counted : (run.cpu.due look.now).count = due)
    (same : (run.machine.latch keys).bare = reference.bare) (timeless : reference.Timeless) :
    run.machine.executed (run.workOperations look) =
        reference.executed (List.replicate due .step) ∧
      ((run.worked look).latch keys).bare =
        (reference.performAll (List.replicate due .step)).bare ∧
      (due ≠ 0 → (run.worked look).keys = keys) := by
  have operations : run.workOperations look =
      List.replicate (run.timers.due look.now).count .tick ++
        if due = 0 then [] else .latch keys :: List.replicate due .step := by
    rw [workOperations, counted, steady, Look.begun, uncancelled]
  -- The ticks of the look change timers alone.
  have ticked := run.machine.bare_ticks keys (run.timers.due look.now).count
  have nothing := run.machine.executed_ticks (run.timers.due look.now).count
  rw [worked, operations, Machine.executed_append, Machine.performAll_append, nothing,
    List.nil_append]
  generalize run.machine.performAll
    (List.replicate (run.timers.due look.now).count .tick) = machine at ticked ⊢
  have latched : (machine.latch keys).bare = reference.bare := ticked.trans same
  by_cases zero : due = 0
  · rw [if_pos zero, zero]
    exact ⟨rfl, latched, fun some => absurd rfl some⟩
  · rw [if_neg zero, Machine.performAll_cons]
    obtain ⟨executed, left⟩ := Machine.steps_of_bare_eq latched due (timeless due)
    have held : ((machine.latch keys).performAll (List.replicate due .step)).keys = keys :=
      (machine.latch keys).keys_steps due
    refine ⟨executed, ?_, fun _ => held⟩
    show (((machine.latch keys).performAll (List.replicate due .step)).latch keys).bare = _
    rw [Machine.latch_of_held held, left]

/-- A run beside a host that holds the same keys and does not cancel executes what some number of
steps executes after the keys were latched, and if it ends with a fault it leaves what those steps
leave, stopped by the fault, but for timers and mark. -/
theorem polls_follow (run : Run) {looks : List Look}
    (steady : ∀ look ∈ looks, look.keys = keys)
    (uncancelled : ∀ look ∈ looks, look.allowed = none)
    (same : (run.machine.latch keys).bare = reference.bare) (timeless : reference.Timeless) :
    ∃ count,
      run.machine.executed (run.operations looks) =
          reference.executed (List.replicate count .step) ∧
        ∀ fault, (run.polls looks).2 = some fault →
          (run.polls looks).1.machine.status = .faulted fault ∧
            (run.polls looks).1.machine.bare =
              (reference.performAll (List.replicate count .step)).bare := by
  induction looks generalizing run reference with
  | nil => exact ⟨0, rfl, nofun⟩
  | cons look later inductionHypothesis =>
    obtain ⟨executed, latched, held⟩ := run.worked_follows (steady look List.mem_cons_self)
      (uncancelled look List.mem_cons_self) rfl same timeless
    generalize counted : (run.cpu.due look.now).count = due at executed latched held
    have trace : run.machine.executed (run.lookOperations look) =
        reference.executed (List.replicate due .step) := by
      rw [lookOperations, Machine.executed_append, executed]
      exact List.append_nil _
    have taken : (run.poll look).1.machine = (run.worked look).takeFrame.2 := by
      rw [machine_poll, lookOperations, Machine.performAll_append]
      rfl
    cases met : (run.poll look).2 with
    | some fault =>
      obtain ⟨some, stopped⟩ := status_of_fault met
      rw [polls_cons_of_fault met, operations_cons_of_fault met]
      refine ⟨due, trace, fun other reported => ?_⟩
      obtain rfl := Option.some.inj (met.symm.trans reported)
      refine ⟨stopped, ?_⟩
      -- Instructions were due, so the machine already holds the keys that were latched.
      rw [taken, ← latched, Machine.latch_of_held (held (counted ▸ some))]
      rfl
    | none =>
      rw [polls_cons_of_fine met, operations_cons_of_fine met]
      have after : ((run.poll look).1.machine.latch keys).bare =
          (reference.performAll (List.replicate due .step)).bare := by
        rw [taken, ← latched]
        rfl
      obtain ⟨count, rest, ends⟩ := inductionHypothesis (run.poll look).1
        (fun other member => steady other (List.mem_cons_of_mem look member))
        (fun other member => uncancelled other (List.mem_cons_of_mem look member))
        after (timeless.steps due)
      refine ⟨due + count, ?_, ?_⟩
      · rw [Machine.executed_append, ← machine_poll, trace, rest,
          ← List.replicate_append_replicate, Machine.executed_append]
      · rw [← List.replicate_append_replicate, Machine.performAll_append]
        exact ends

/-- The machine whose plain steps a run follows: it reads shifts as the settings say and holds the
keys of the panel. -/
def followed (settings : Settings) (machine : Machine) (panel : Panel) : Machine :=
  { machine with shift := settings.shift, keys := panel.keys }

/-- The instructions that a run executes, in order. -/
def trace (settings : Settings) (moment : Int) (looks : List Look) (machine : Machine)
    (panel : Panel) : List Instruction :=
  let run := start settings moment machine panel
  run.machine.executed (run.operations looks)

/-- **Pacing does not show.** Let plain stepping of a machine meet a fault without reading the
delay timer. A run of that machine beside a host that holds the same keys and does not cancel,
whatever its settings and its readings of the clock, meets the same fault if it ends, after
exactly the same instructions, and leaves the same machine but for timers and mark. The panel
then shows the timers of the machine, and its picture if it waited or was drawn upon. -/
theorem attended_follows_steps {settings : Settings} {moment : Int} {looks : List Look}
    {machine stopped : Machine} {panel : Panel} {count : Nat} {fault : Fault}
    (steady : ∀ look ∈ looks, look.keys = panel.keys)
    (uncancelled : ∀ look ∈ looks, look.allowed = none)
    (stops : (followed settings machine panel).steps count = (stopped, some fault))
    (unread : ∀ x, .readDelay x ∉
      (followed settings machine panel).executed (List.replicate count .step))
    (ended : (attended settings moment looks machine panel).fault ≠ none) :
    let ending := attended settings moment looks machine panel
    let drawn := machine.screen.dirty = true ∨ Drawn (trace settings moment looks machine panel)
    ending.fault = some fault ∧
      trace settings moment looks machine panel =
        (followed settings machine panel).executed (List.replicate count .step) ∧
      ending.machine.Agree stopped ∧ ending.machine.screen.dirty = false ∧
      ending.panel.timers = ending.machine.timers ∧
      (drawn → ending.panel.frame.pixels = ending.machine.screen.pixels) ∧
      (¬drawn → ending.panel.frame.pixels = panel.frame.pixels) ∧
      ((∀ look ∈ looks, look.takes = false) →
        (ending.panel.frame.dirty = true ↔ panel.frame.dirty = true ∨ drawn)) := by
  intro ending drawn
  -- Plain stepping.
  have left : (followed settings machine panel).performAll (List.replicate count .step) =
      stopped := by
    rw [← Machine.steps_machine, stops]
  have status : ((followed settings machine panel).performAll
      (List.replicate count .step)).status = .faulted fault := by
    rw [← Machine.steps_machine]
    exact Machine.status_of_steps (congrArg Prod.snd stops)
  -- The run, with as many steps as it took.
  have latched : ((start settings moment machine panel).machine.latch panel.keys).bare =
      (followed settings machine panel).bare := rfl
  obtain ⟨taken, executed, ends⟩ := (start settings moment machine panel).polls_follow steady
    uncancelled latched (Machine.timeless_of_faulted status unread)
  obtain ⟨met, reported⟩ := Option.ne_none_iff_exists'.1 ended
  obtain ⟨endStatus, bare⟩ := ends met reported
  have takenStatus : ((followed settings machine panel).performAll
      (List.replicate taken .step)).status = .faulted met :=
    (congrArg (fun machine : Machine => machine.status) bare).symm.trans endStatus
  obtain ⟨sameTrace, sameMachine⟩ := Machine.steps_agree takenStatus status
  have sameFault : met = fault := by
    rw [sameMachine, status] at takenStatus
    exact (Status.faulted.inj takenStatus).symm
  have nonempty : looks ≠ [] := by
    rintro rfl
    exact ended rfl
  have published := published_polls (start settings moment machine panel) nonempty
  obtain ⟨before, last, final⟩ := (start settings moment machine panel).polls_eq_poll nonempty
  refine ⟨?_, executed.trans sameTrace, ?_, ?_, ?_, published.shown,
    fun still => (published.kept still).1, published.marked⟩
  · rw [← sameFault]
    exact reported
  · refine .of_bare_eq (bare.trans ?_)
    rw [sameMachine, left]
  · show ((start settings moment machine panel).polls looks).1.machine.screen.dirty = false
    rw [final, dirty_poll]
  · show ((start settings moment machine panel).polls looks).1.panel.timers =
      ((start settings moment machine panel).polls looks).1.machine.timers
    rw [final, timers_poll]

/-- A machine whose program shifts 5 from one register to another, passes over a word that is none
if the key of the result is held, clears the screen and meets such a word after all. -/
def faulting : Machine :=
  (Machine.initial.load
    [0x61, 0x05, 0x80, 0x16, 0xE0, 0x9E, 0x00, 0x00, 0x00, 0xE0, 0x00, 0x00]).machine

/-- Settings under which VX becomes VY shifted. -/
def shiftingOther : Settings := { Settings.default with shift := .vy }

/-- A panel on which the host holds key 2. -/
def holdingTwo : Panel := Panel.initial.setKeys (Keypad.released.set 2 true)

/-- The looks of a run that finds two instructions due at first and four more later. -/
def twoLooks : List Look := [.quiet holdingTwo.keys 4000000, .quiet holdingTwo.keys 12000000]

/-- The run of that program meets its fault in the middle of the second look. It gets past the
first of the two words because it reads the shift from VY and knows that key 2 is held. -/
theorem follows_faulting :
    let ending := attended shiftingOther 0 twoLooks faulting holdingTwo
    ending.fault = some ⟨0, 0x20A⟩ ∧
      trace shiftingOther 0 twoLooks faulting holdingTwo =
        [.setByte 1 5, .shiftRight 0 1, .skipIfKey 0, .clear] ∧
      ending.machine.Agree ((followed shiftingOther faulting holdingTwo).steps 5).1 ∧
      ending.machine.keys = Keypad.released.set 2 true ∧ ending.machine.shift = .vy := by
  intro ending
  have reported : ((followed shiftingOther faulting holdingTwo).steps 5).2 =
      some ⟨0, 0x20A⟩ := by
    decide +kernel
  have stops : (followed shiftingOther faulting holdingTwo).steps 5 =
      (((followed shiftingOther faulting holdingTwo).steps 5).1, some ⟨0, 0x20A⟩) := by
    rw [← reported]
  have executed : (followed shiftingOther faulting holdingTwo).executed (List.replicate 5 .step) =
      [.setByte 1 5, .shiftRight 0 1, .skipIfKey 0, .clear] := by
    decide +kernel
  have unread : ∀ x, .readDelay x ∉
      (followed shiftingOther faulting holdingTwo).executed (List.replicate 5 .step) := by
    intro x member
    rw [executed] at member
    simp at member
  have ended : ending.fault ≠ none := by
    decide +kernel
  obtain ⟨met, trace, agree, _⟩ :=
    attended_follows_steps (by decide) (by decide) stops unread ended
  exact ⟨met, trace.trans executed, agree, by decide +kernel, by decide +kernel⟩

end Run

end Chip8
