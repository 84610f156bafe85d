import Chip8.Proofs.Occurrences
import Chip8.Proofs.Ticking

/-!
# Timers count down from what they were set to

Whatever happens after a program was loaded or the machine reset, each of the two timers shows what
is left of the value that it was last set to: one less for each tick since, down to zero
(`counted_down`). A tick lowers both, an instruction sets one of them from a register, and nothing
else changes either (`count_after`), so neither timer bears on the other and neither ever passes
below zero.
-/
namespace Chip8

/-- A timer is active exactly while it is positive. -/
theorem Timer.active_iff (timer : Timer) : timer.active = true ↔ 0 < timer.count.toNat := by
  have zero : timer.count = 0 ↔ timer.count.toNat = 0 := UInt8.toNat_inj.symm
  rw [active, bne_iff_ne, ne_eq, zero]
  omega

/-- One of the two timers. -/
inductive Counter where
  /-- The timer that programs read. -/
  | delay
  /-- The timer of the tone. -/
  | sound

namespace Counter

/-- The ticks until the timer reaches zero. -/
def count (timers : Timers) : Counter → Nat
  | .delay => timers.delay.count.toNat
  | .sound => timers.sound.count.toNat

/-- The instruction that sets the timer from a register. -/
def set (x : UInt8) : Counter → Instruction
  | .delay => .setDelay x
  | .sound => .setSound x

variable {machine : Machine} {counter : Counter} {ins : Instruction} {operation : Operation}

/-- A tick lowers the timer by one, and zero stays. -/
theorem count_tick (timers : Timers) (counter : Counter) :
    counter.count timers.tick = counter.count timers - 1 := by
  cases counter with
  | delay => exact timers.delay.toNat_tick
  | sound => exact timers.sound.toNat_tick

/-- A timer that is set shows the register from which it was set. -/
theorem count_effect_set (machine : Machine) (counter : Counter) (x : UInt8) :
    counter.count (machine.effect (counter.set x)).timers = (machine.value x).toNat := by
  rw [Machine.timers_effect]
  cases counter with
  | delay => rfl
  | sound => rfl

/-- An instruction that does not set a timer leaves it as it is. -/
theorem count_effect_other (other : ∀ x, ins ≠ counter.set x) :
    counter.count (machine.effect ins).timers = counter.count machine.timers := by
  rw [Machine.timers_effect]
  cases ins with
  | setDelay x =>
    cases counter with
    | delay => exact absurd rfl (other x)
    | sound => rfl
  | setSound x =>
    cases counter with
    | delay => rfl
    | sound => exact absurd rfl (other x)
  | _ => rfl

/-- A step, or an instruction that is executed directly, leaves a timer that it does not set. -/
theorem count_of_executes (executes : operation.Executes)
    (unset : ∀ x, (machine.perform operation).1.executed? ≠ some (counter.set x)) :
    counter.count (machine.perform operation).2.timers = counter.count machine.timers := by
  cases done : (machine.perform operation).1.executed? with
  | some ins =>
    have other : ∀ x, ins ≠ counter.set x := by
      rintro x rfl
      exact unset x done
    rw [Machine.perform_of_executed done]
    exact count_effect_other other
  | none => rw [Machine.perform_of_idle done executes]

end Counter

namespace Event

/-- Whether an event is a tick of the timers. -/
def isTick : Event → Bool
  | .operate operation => operation.isTick
  | _ => false

end Event

namespace Exchange

variable {exchange : Exchange} {events : List Event} {event : Event} {counter : Counter} {now : Nat}

/-- The ticks that happen from one moment on and before another. -/
def ticks (events : List Event) (since now : Nat) : Nat :=
  ((events.take now).drop since).countP Event.isTick

/-- What a timer was set to, and the moment from which it counts down. -/
structure Setting where
  /-- The value that it was set to. -/
  value : Nat
  /-- The moment after the timer was set. -/
  since : Nat

/-- A timer is set at a moment: the instruction that sets it from a register is executed. -/
def Sets (exchange : Exchange) (events : List Event) (counter : Counter) (moment : Nat)
    (setting : Setting) : Prop :=
  ∃ x, exchange.Executes events moment (counter.set x) ∧
    setting = ⟨((exchange.reached events moment).machine.value x).toNat, moment + 1⟩

/-- The number that is left of the last setting of a timer: less one for each tick since, and no
less than zero. A timer that was not set counts from zero. -/
def Left (exchange : Exchange) (events : List Event) (counter : Counter) (now number : Nat) : Prop :=
  ∃ setting, Latest (exchange.Sets events counter) ⟨0, 0⟩ now setting ∧
    number = setting.value - ticks events setting.since now

/-- What the timers tell at a moment. -/
structure CountedDown (exchange : Exchange) (events : List Event) (now : Nat) : Prop where
  /-- Each timer shows what is left of its last setting. -/
  counts : ∀ counter, exchange.Left events counter now
    (counter.count (exchange.reached events now).machine.timers)
  /-- A program that reads the delay timer is given just that. -/
  read : ∀ x, exchange.Executes events now (.readDelay x) →
    exchange.Left events .delay now ((exchange.reached events (now + 1)).machine.value x).toNat
  /-- The tone sounds while the sound timer is positive. -/
  sounds : (exchange.reached events now).machine.timers.sound.active = true ↔
    0 < Counter.sound.count (exchange.reached events now).machine.timers
  /-- A timer that is not set does not rise. -/
  falls : ∀ event, Happens events event now → ∀ counter,
    (∀ setting, ¬exchange.Sets events counter now setting) →
      counter.count (exchange.reached events (now + 1)).machine.timers ≤
        counter.count (exchange.reached events now).machine.timers

/-- A moment later the ticks count one more if the event is a tick. -/
theorem ticks_succ (happens : Happens events event now) {since : Nat} (past : since ≤ now) :
    ticks events since (now + 1) = ticks events since now + if event.isTick then 1 else 0 := by
  have within : now < events.length := (List.getElem?_eq_some_iff.1 happens).1
  have begun : since ≤ (events.take now).length := by
    rw [List.length_take]
    omega
  rw [ticks, ticks, List.take_add_one, happens, Option.toList_some,
    List.drop_append_of_le_length begun, List.countP_append, List.countP_singleton]

/-- No tick happens from a moment on and before it. -/
theorem ticks_self (events : List Event) (now : Nat) : ticks events now now = 0 := by
  have nothing : (events.take now).drop now = [] :=
    List.drop_eq_nil_of_le (List.length_take_le now events)
  rw [ticks, nothing, List.countP_nil]

/-- An event that sets a timer leaves it at the register from which it sets it. -/
theorem count_after_set {x : UInt8} (done : exchange.executed? event = some (counter.set x)) :
    counter.count (exchange.after event).machine.timers = (exchange.machine.value x).toNat := by
  rw [machine_of_executed done]
  exact Counter.count_effect_set _ counter x

/-- Any other event leaves a timer as it is, unless it is a tick. -/
theorem count_after (keeps : event.KeepsProgram)
    (unset : ∀ x, exchange.executed? event ≠ some (counter.set x)) :
    counter.count (exchange.after event).machine.timers =
      counter.count exchange.machine.timers - if event.isTick then 1 else 0 := by
  cases event with
  | operate operation =>
    cases operation with
    | step | execute => exact Counter.count_of_executes trivial unset
    | tick => exact counter.count_tick _
    | load | reset => exact keeps.elim
    | _ => rfl
  | _ => rfl

/-- A timer counts down from no later than now. -/
theorem since_le {setting : Setting}
    (latest : Latest (exchange.Sets events counter) ⟨0, 0⟩ now setting) : setting.since ≤ now := by
  cases latest with
  | given recent gives =>
    obtain ⟨x, _, rfl⟩ := gives
    exact recent.past
  | never none => exact Nat.zero_le now

/-- At the beginning nothing is left, because nothing was set. -/
theorem left_zero : exchange.Left events counter 0 0 := ⟨⟨0, 0⟩, latest_zero, rfl⟩

/-- Of a timer that is set now, all of the value is left a moment later. -/
theorem left_of_set {x : UInt8} (sets : exchange.Executes events now (counter.set x)) :
    exchange.Left events counter (now + 1)
      ((exchange.reached events now).machine.value x).toNat := by
  refine ⟨_, latest_of_given ⟨x, sets, rfl⟩, ?_⟩
  rw [ticks_self, Nat.sub_zero]

/-- Of a timer that is not set now, one less is left a moment later if the event is a tick, and as
much as before if not. -/
theorem Left.succ {number : Nat} (left : exchange.Left events counter now number)
    (happens : Happens events event now)
    (unset : ∀ setting, ¬exchange.Sets events counter now setting) :
    exchange.Left events counter (now + 1) (number - if event.isTick then 1 else 0) := by
  obtain ⟨setting, latest, rfl⟩ := left
  refine ⟨setting, latest.succ unset, ?_⟩
  rw [ticks_succ happens (since_le latest), Nat.sub_add_eq]

/-- A timer that is not set is not set by the event that happens. -/
theorem unset_of_happens (happens : Happens events event now)
    (unset : ∀ setting, ¬exchange.Sets events counter now setting) (x : UInt8) :
    (exchange.reached events now).executed? event ≠ some (counter.set x) := by
  intro done
  exact unset _ ⟨x, (executes_iff happens).2 done, rfl⟩

/-- **One event.** A timer that shows what is left of its last setting does so after any event that
keeps the program. -/
theorem left_after (happens : Happens events event now) (keeps : event.KeepsProgram)
    (left : exchange.Left events counter now
      (counter.count (exchange.reached events now).machine.timers)) :
    exchange.Left events counter (now + 1)
      (counter.count (exchange.reached events (now + 1)).machine.timers) := by
  rw [reached_succ happens]
  -- A setting begins a new count; any other event goes on with the old one.
  by_cases sets : ∃ x, (exchange.reached events now).executed? event = some (counter.set x)
  · obtain ⟨x, done⟩ := sets
    rw [count_after_set done]
    exact left_of_set ((executes_iff happens).2 done)
  · have unset : ∀ setting, ¬exchange.Sets events counter now setting := by
      rintro setting ⟨x, executes, _⟩
      exact sets ⟨x, (executes_iff happens).1 executes⟩
    rw [count_after keeps (unset_of_happens happens unset)]
    exact left.succ happens unset

/-- From timers at zero, each timer shows at every moment what is left of its last setting. -/
theorem left_count (zero : exchange.machine.timers = Timers.zero)
    (keeps : ∀ event ∈ events, event.KeepsProgram) (within : now ≤ events.length)
    (counter : Counter) :
    exchange.Left events counter now
      (counter.count (exchange.reached events now).machine.timers) := by
  refine holds_at_moments (fun now => exchange.Left events counter now
    (counter.count (exchange.reached events now).machine.timers)) ?_ ?_ within
  · have none : counter.count exchange.machine.timers = 0 := by
      rw [zero]
      cases counter <;> rfl
    show exchange.Left events counter 0 (counter.count exchange.machine.timers)
    rw [none]
    exact left_zero
  · intro now event happens left
    exact left_after happens (keeps event (List.mem_of_getElem? happens)) left

/-- A reset and a loading leave both timers at zero. -/
theorem timers_of_restart {operation : Operation} (machine : Machine)
    (restarts : ¬operation.KeepsProgram) : (machine.perform operation).2.timers = Timers.zero := by
  obtain ⟨memory, restarted⟩ := machine.perform_of_restart restarts
  exact congrArg Machine.timers restarted

/-- A register that takes the delay timer holds it. -/
theorem value_readDelay (machine : Machine) (x : UInt8) :
    ((machine.effect (.readDelay x)).value x).toNat = Counter.delay.count machine.timers := by
  have read : (machine.effect (.readDelay x)).value x = machine.timers.delay.count := by
    show (machine.registers.set x machine.timers.delay.count).get x = machine.timers.delay.count
    rw [Registers.get_set, if_pos rfl]
  rw [read]
  rfl

/-- **Timers count down.** After a program was loaded or refused, or the machine reset, in any state,
and through whatever follows without another loading or reset: each timer shows the value to which
the program last set it, less the ticks since then and no less than zero, or zero if it was not set;
a program that reads the delay timer is given that number; the tone sounds while the other number is
positive; and a timer that is not set never rises. -/
theorem counted_down (exchange : Exchange) {restart : Operation} (restarts : ¬restart.KeepsProgram)
    {events : List Event} (keeps : ∀ event ∈ events, event.KeepsProgram) {now : Nat}
    (within : now ≤ events.length) :
    (exchange.after (.operate restart)).CountedDown events now := by
  have zero : (exchange.after (.operate restart)).machine.timers = Timers.zero :=
    timers_of_restart exchange.machine restarts
  generalize exchange.after (.operate restart) = begun at zero
  have counts (counter : Counter) := left_count zero keeps within counter
  refine ⟨counts, fun x executes => ?_, ?_, fun event happens counter unset => ?_⟩
  · obtain ⟨event, happens, done⟩ := executes
    rw [reached_succ happens, machine_of_executed done, value_readDelay]
    exact counts .delay
  · exact Timer.active_iff _
  · have kept := keeps event (List.mem_of_getElem? happens)
    rw [reached_succ happens, count_after kept (unset_of_happens happens unset)]
    exact Nat.sub_le _ _

/-- A program that sets both timers to nine and reads the delay timer, and a host that ticks before,
between and after the instructions, more often than nine times in the end. -/
def ticking : List Event :=
  [.operate .tick, .operate .step, .operate .step, .operate .tick, .sync, .operate .tick,
    .operate .step, .take, .operate .step] ++ List.replicate 8 (.operate .tick)

/-- The program of that machine is loaded. -/
def setsBoth : Operation := .load [0x60, 0x09, 0xF0, 0x15, 0xF0, 0x18, 0xF1, 0x07]

/-- The delay timer is read after two ticks; at the end it has stopped at zero, and the sound timer,
which was set later, has one tick left and sounds. -/
theorem counted_down_ticking :
    let begun := (start Machine.initial).after (.operate setsBoth)
    ¬setsBoth.KeepsProgram ∧ (∀ event ∈ ticking, event.KeepsProgram) ∧ 17 ≤ ticking.length ∧
      begun.Executes ticking 8 (.readDelay 1) ∧ begun.Left ticking .delay 8 7 ∧
      begun.Left ticking .delay 17 0 ∧ begun.Left ticking .sound 17 1 ∧
      (begun.reached ticking 17).machine.timers.sound.active = true := by
  intro begun
  have restarts : ¬setsBoth.KeepsProgram := by decide
  have keeps : ∀ event ∈ ticking, event.KeepsProgram := by decide
  have executes : begun.Executes ticking 8 (.readDelay 1) :=
    ⟨.operate .step, rfl, by decide +kernel⟩
  have reading : begun.CountedDown ticking 8 :=
    counted_down (start Machine.initial) restarts keeps (by decide)
  have final : begun.CountedDown ticking 17 :=
    counted_down (start Machine.initial) restarts keeps (by decide)
  have given : ((begun.reached ticking 9).machine.value 1).toNat = 7 := by decide +kernel
  have stopped : Counter.delay.count (begun.reached ticking 17).machine.timers = 0 := by
    decide +kernel
  have last : Counter.sound.count (begun.reached ticking 17).machine.timers = 1 := by
    decide +kernel
  have sounds : 0 < Counter.sound.count (begun.reached ticking 17).machine.timers := by
    rw [last]
    exact Nat.one_pos
  exact ⟨restarts, keeps, by decide, executes, given ▸ reading.read 1 executes,
    stopped ▸ final.counts .delay, last ▸ final.counts .sound, final.sounds.2 sounds⟩

end Exchange

end Chip8
