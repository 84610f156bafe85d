import Chip8.Proofs.Blocks
import Chip8.Proofs.Occurrences
import Mathlib.Tactic.IntervalCases

/-!
# Waiting for a key

A machine that is to wait for a key stays at that instruction, with all that programs depend on,
until a step finds a key held (`pending_reached`). That step stores the number of the lowest key and
goes on behind the instruction, whether the wait begins with it or has lasted for any number of steps
(`Pending.answered`). What counts is which keys are held at a step: keys that came and went before it
are not noticed (`stepsAlike_of_same_keys`).
-/
namespace Chip8

namespace Machine

variable {machine start after : Machine} {ins : Instruction} {x : UInt8}

/-- A machine has gone on from where it waited, and a register holds a key. -/
structure Resumed (start : Machine) (x : UInt8) (key : Fin 16) (after : Machine) : Prop where
  /-- The register holds the number of the key. -/
  stored : (after.value x).toNat = key.val
  /-- Every other register is the same. -/
  others : ∀ cell, Registers.slot x ≠ cell →
    after.registers.cells.get cell = start.registers.cells.get cell
  /-- Execution has passed the instruction that waited. -/
  pc : after.pc = start.pc + 2
  /-- The machine runs. -/
  status : after.status = .running
  /-- The index is the same. -/
  index : after.index = start.index
  /-- The stack is the same. -/
  stack : after.stack = start.stack
  /-- Memory is the same. -/
  memory : after.memory = start.memory
  /-- The picture is the same. -/
  pixels : after.screen.pixels = start.screen.pixels

/-- How a step answers a wait for a key, by the keys that are held. -/
inductive Answered (start : Machine) (x : UInt8) (keys : Keypad) : Outcome → Machine → Prop
  /-- No key is held: the machine waits, and is otherwise as it was when the wait began. -/
  | waiting {after : Machine} (nobody : ∀ key : Fin 16, keys.keys.get key = false)
    (unmoved : start.Unmoved after) (status : after.status = .awaitingKey x) :
    Answered start x keys .awaitingKey after
  /-- The lowest key that is held is stored, and the machine goes on. -/
  | resumed {after : Machine} {key : Fin 16} (held : keys.keys.get key = true)
    (lowest : ∀ lower < key, keys.keys.get lower = false)
    (resumed : start.Resumed x key after) :
    Answered start x keys (.executed (.awaitKey x)) after

/-- Two machines answer a step alike, and are alike afterwards in what programs depend on and in the
keys. -/
structure StepsAlike (one other : Machine) : Prop where
  /-- The outcome is the same. -/
  outcome : other.step.outcome = one.step.outcome
  /-- What programs depend on is the same. -/
  undisturbed : one.step.machine.Undisturbed other.step.machine
  /-- The same keys are held. -/
  keys : other.step.machine.keys = one.step.machine.keys

/-- The wait for a key is what the machine has to execute, and what programs depend on is as it was
at the beginning. -/
structure Pending (start : Machine) (x : UInt8) (machine : Machine) : Prop where
  /-- Nothing that programs depend on has changed. -/
  unmoved : start.Unmoved machine
  /-- The instruction is at hand. -/
  hand : machine.AtHand (.awaitKey x)

/-- An undisturbed machine has the same instruction at hand. -/
theorem Undisturbed.hand (same : machine.Undisturbed after) (hand : machine.AtHand ins) :
    after.AtHand ins := by
  cases hand with
  | next running here => exact .next (same.status.trans running) (same.current.trans here)
  | awaited waiting => exact .awaited (same.status.trans waiting)

/-- What happens between two steps leaves the wait pending. -/
theorem Pending.undisturbed (pending : start.Pending x machine)
    (same : machine.Undisturbed after) : start.Pending x after :=
  ⟨pending.unmoved.trans same.unmoved, same.hand pending.hand⟩

/-- So does a step while no key is held. -/
theorem Pending.step (pending : start.Pending x machine) (nobody : machine.keys.first? = none) :
    start.Pending x machine.step.machine := by
  rw [(step_of_hand pending.hand).2, effect_awaitKey_idle nobody]
  exact ⟨pending.unmoved.trans (machine.unmoved_of_status _), .awaited rfl⟩

/-- A key that is accepted goes to the register, and the machine goes on. -/
theorem Unmoved.resumed (unmoved : start.Unmoved machine) (x : UInt8) (key : Fin 16) :
    start.Resumed x key (machine.acceptKey x (UInt8.ofNat key)) where
  stored := by
    have taken : (machine.acceptKey x (UInt8.ofNat key)).value x = UInt8.ofNat key :=
      (machine.registers.get_set x x _).trans (if_pos rfl)
    have small := key.isLt
    rw [taken, UInt8.toNat_ofNat']
    omega
  others := by
    intro cell apart
    refine (Chip8.get_set_cell machine.registers.cells (Registers.slot x) cell _).trans ?_
    rw [if_neg apart, unmoved.registers]
  pc := congrArg (· + 2) unmoved.pc
  status := rfl
  index := unmoved.index
  stack := unmoved.stack
  memory := unmoved.memory
  pixels := unmoved.pixels

/-- **One step.** A step answers a pending wait by the keys that are held. -/
theorem Pending.answered (pending : start.Pending x machine) :
    start.Answered x machine.keys machine.step.outcome machine.step.machine := by
  obtain ⟨outcomes, machines⟩ := step_of_hand pending.hand
  rw [outcomes, machines]
  cases first : machine.keys.first? with
  | none =>
    rw [outcome_awaitKey_idle first, effect_awaitKey_idle first]
    exact .waiting (Keypad.first?_eq_none_iff.1 first)
      (pending.unmoved.trans (machine.unmoved_of_status _)) rfl
  | some key =>
    rw [outcome_awaitKey_held first, effect_awaitKey_held first]
    obtain ⟨lowest, rfl, held, lower⟩ := Keypad.first?_eq_some_iff.1 first
    exact .resumed held lower (pending.unmoved.resumed x lowest)

/-- What the wait for a key does depends on the keys that are held and what programs depend on. -/
theorem Undisturbed.effect_awaitKey (same : machine.Undisturbed after)
    (keys : after.keys = machine.keys) (x : UInt8) :
    (machine.effect (.awaitKey x)).Undisturbed (after.effect (.awaitKey x)) := by
  cases first : machine.keys.first? with
  | none =>
    have still : after.keys.first? = none := by rw [keys, first]
    rw [effect_awaitKey_idle first, effect_awaitKey_idle still]
    exact ⟨same.pc, same.index, same.registers, same.stack, rfl, same.memory, same.pixels⟩
  | some key =>
    have still : after.keys.first? = some key := by rw [keys, first]
    have registers : after.registers.set x key = machine.registers.set x key := by
      rw [same.registers]
    rw [effect_awaitKey_held first, effect_awaitKey_held still]
    exact ⟨congrArg (· + 2) same.pc, same.index, registers, same.stack, rfl, same.memory,
      same.pixels⟩

/-- A step of a machine that waits for a key notices of what was done before it only which keys are
held. -/
theorem stepsAlike_of_same_keys (hand : machine.AtHand (.awaitKey x))
    (same : machine.Undisturbed after) (keys : after.keys = machine.keys) :
    machine.StepsAlike after := by
  obtain ⟨outcomes, machines⟩ := step_of_hand hand
  obtain ⟨laterOutcomes, laterMachines⟩ := step_of_hand (same.hand hand)
  constructor
  · rw [outcomes, laterOutcomes, Machine.outcome, Machine.outcome, keys]
  · rw [machines, laterMachines]
    exact same.effect_awaitKey keys x
  · rw [machine.host_step.1, after.host_step.1, keys]

end Machine

namespace Event

/-- What may happen between two steps of a program. -/
def Between : Event → Prop
  | .operate operation => operation.Between
  | .sync | .take | .setKeys _ | .updateButtons _ | .reset => True

end Event

namespace Exchange

variable {exchange : Exchange} {events : List Event} {event : Event} {x : UInt8} {now : Nat}

/-- A step at a moment finds a key held. -/
def Finds (exchange : Exchange) (events : List Event) (moment : Nat) : Prop :=
  Happens events (.operate .step) moment ∧
    ∃ key : Fin 16, (exchange.reached events moment).machine.keys.keys.get key = true

/-- What comes of a wait for a key at a step. -/
structure Awaited (exchange : Exchange) (events : List Event) (x : UInt8) (now : Nat) : Prop where
  /-- The step answers by the keys that are held. -/
  answered : exchange.machine.Answered x (exchange.reached events now).machine.keys
    (exchange.reached events now).machine.step.outcome
    (exchange.reached events now).machine.step.machine
  /-- If more happens before the step and the same keys are held in the end, the step answers the
  same. -/
  unnoticed : ∀ between : List Event, (∀ event ∈ between, event.Between) →
    (between.foldl after (exchange.reached events now)).machine.keys =
        (exchange.reached events now).machine.keys →
      (exchange.reached events now).machine.StepsAlike
        (between.foldl after (exchange.reached events now)).machine

/-- What happens between two steps does not disturb the machine. -/
theorem undisturbed_after (between : event.Between) :
    exchange.machine.Undisturbed (exchange.after event).machine := by
  cases event with
  | operate operation => exact exchange.machine.perform_between between
  | _ => exact ⟨rfl, rfl, rfl, rfl, rfl, rfl, rfl⟩

/-- However much happens between two steps, the machine is not disturbed. -/
theorem undisturbed_foldl (between : ∀ event ∈ events, event.Between) :
    exchange.machine.Undisturbed (events.foldl after exchange).machine :=
  List.foldlRecOn (motive := fun later : Exchange => exchange.machine.Undisturbed later.machine)
    events _ (.refl exchange.machine) fun _ kept event member =>
      kept.trans (undisturbed_after (between event member))

/-- **One event.** The wait stays pending through an event that is no step, or a step that finds no
key held. -/
theorem pending_after {start : Machine} (pending : start.Pending x exchange.machine)
    (paced : event = .operate .step ∨ event.Between)
    (unfound : event = .operate .step → exchange.machine.keys.first? = none) :
    start.Pending x (exchange.after event).machine := by
  rcases paced with rfl | between
  · exact pending.step (unfound rfl)
  · exact pending.undisturbed (undisturbed_after between)

/-- The wait stays pending until a step finds a key held. -/
theorem pending_reached (hand : exchange.machine.AtHand (.awaitKey x))
    (paced : ∀ event ∈ events, event = .operate .step ∨ event.Between)
    (unfound : ∀ earlier < now, ¬exchange.Finds events earlier) (within : now ≤ events.length) :
    exchange.machine.Pending x (exchange.reached events now).machine := by
  -- That no step has found a key is part of the invariant: it is known for earlier moments only.
  refine holds_at_moments (fun now => (∀ earlier < now, ¬exchange.Finds events earlier) →
    exchange.machine.Pending x (exchange.reached events now).machine) ?_ ?_ within unfound
  · exact fun _ => ⟨⟨rfl, rfl, rfl, rfl, rfl, rfl⟩, hand⟩
  · intro now event happens before unfound
    have pending := before fun earlier past => unfound earlier (Nat.lt_succ_of_lt past)
    rw [reached_succ happens]
    refine pending_after pending (paced event (List.mem_of_getElem? happens)) fun steps => ?_
    rw [steps] at happens
    refine Keypad.first?_eq_none_iff.2 fun key => eq_false_of_ne_true fun held => ?_
    exact unfound now (Nat.lt_succ_self now) ⟨happens, key, held⟩

/-- **Waiting for a key.** From a running machine at the instruction that waits for a key, through
steps and whatever a host does between them: every step before the first that finds a key held
reports that the machine waits, and leaves all that programs depend on as it was at the beginning;
that first step stores the lowest key that is then held, changes no other register, passes the
instruction and lets the machine run; and keys that are pressed and released between two steps are
not noticed. -/
theorem wait_answered (exchange : Exchange) {x : UInt8}
    (running : exchange.machine.status = .running)
    (here : exchange.machine.current = .awaitKey x) {events : List Event}
    (paced : ∀ event ∈ events, event = .operate .step ∨ event.Between) {now : Nat}
    (steps : Happens events (.operate .step) now)
    (unfound : ∀ earlier < now, ¬exchange.Finds events earlier) :
    exchange.Awaited events x now := by
  have within : now < events.length := (List.getElem?_eq_some_iff.1 steps).1
  have pending := pending_reached (.next running here) paced unfound (Nat.le_of_lt within)
  refine ⟨pending.answered, fun between idle keys => ?_⟩
  exact Machine.stepsAlike_of_same_keys pending.hand (undisturbed_foldl idle) keys

/-- While a machine waits, key 3 is pressed and released between two steps; before the third step
keys 9 and 5 are pressed. -/
def pressing : List Event :=
  [.operate .step, .operate (.setKey 3 true), .operate (.setKey 3 false), .sync, .operate .step,
    .operate (.setKey 9 true), .operate .tick, .operate (.setKey 5 true), .operate .step]

/-- The program waits for a key in V7. -/
def waitsOnce : Operation := .load [0xF7, 0x0A]

/-- Key 3 is not noticed, and of the keys that are held at the third step the lowest is stored. -/
theorem wait_answered_pressing :
    let begun := (start Machine.initial).after (.operate waitsOnce)
    begun.machine.status = .running ∧ begun.machine.current = .awaitKey 7 ∧
      (∀ event ∈ pressing, event = .operate .step ∨ event.Between) ∧
      Happens pressing (.operate .step) 8 ∧ (∀ earlier < 8, ¬begun.Finds pressing earlier) ∧
      begun.Awaited pressing 7 8 ∧ ((begun.reached pressing 9).machine.value 7).toNat = 5 := by
  intro begun
  have running : begun.machine.status = .running := rfl
  have here : begun.machine.current = .awaitKey 7 := by decide +kernel
  have paced : ∀ event ∈ pressing, event = .operate .step ∨ event.Between := by
    simp [pressing, Event.Between, Operation.Between]
  have unfound : ∀ earlier < 8, ¬begun.Finds pressing earlier := by
    rintro earlier past ⟨steps, key, held⟩
    have first : earlier = 0 ∨ earlier = 4 := by
      interval_cases earlier <;> first | omega | cases steps
    have released : ∀ key : Fin 16,
        (begun.reached pressing 0).machine.keys.keys.get key = false ∧
          (begun.reached pressing 4).machine.keys.keys.get key = false := by
      decide +kernel
    rcases first with rfl | rfl
    · exact ne_true_of_eq_false (released key).1 held
    · exact ne_true_of_eq_false (released key).2 held
  exact ⟨running, here, paced, rfl, unfound, wait_answered begun running here paced rfl unfound,
    by decide +kernel⟩

end Exchange

end Chip8
