/-!
# Timers

Two counters that fall by one at each tick until they reach zero. The first is for programs
to read, and a tone sounds while the second is not zero.
-/
namespace Chip8

/-- A counter that stops at zero. -/
structure Timer where
  /-- Ticks until zero. -/
  count : UInt8
deriving DecidableEq, Repr

namespace Timer

/-- A timer is active until it reaches zero. -/
def active (timer : Timer) : Bool := timer.count != 0

/-- A tick lowers an active timer and leaves any other at zero. -/
def tick (timer : Timer) : Timer := if timer.active then ⟨timer.count - 1⟩ else timer

/-- A tick subtracts one, and zero stays. -/
theorem toNat_tick (timer : Timer) : timer.tick.count.toNat = timer.count.toNat - 1 := by
  have bound := timer.count.toNat_lt
  by_cases zero : timer.count = 0
  · simp [tick, active, zero]
  · have positive : timer.count.toNat ≠ 0 := fun h => zero (UInt8.toNat_inj.1 h)
    simp only [tick, active, bne_iff_ne, ne_eq, zero, not_false_eq_true, if_true,
      UInt8.toNat_sub, UInt8.toNat_one]
    omega

end Timer

/-- The two timers of the machine. -/
structure Timers where
  /-- The timer that programs read. -/
  delay : Timer
  /-- The timer of the tone. -/
  sound : Timer
deriving DecidableEq, Repr

namespace Timers

/-- Ticks in a second. -/
def rate : Nat := 60

/-- Both timers are at zero. -/
def zero : Timers := ⟨⟨0⟩, ⟨0⟩⟩

/-- Both timers tick together. -/
def tick (timers : Timers) : Timers := ⟨timers.delay.tick, timers.sound.tick⟩

end Timers

end Chip8
