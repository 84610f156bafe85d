import Chip8.Timers

/-!
# Settings of a run

Rates are in hertz and times in nanoseconds. The setters keep rates and the catch-up limit
above zero; a value given directly is taken as it is, and a period never divides by zero.
-/
namespace Chip8

/-- The register that a shift reads. -/
inductive ShiftOperand where
  /-- VX is shifted in place. -/
  | vx
  /-- VX becomes VY shifted. -/
  | vy
deriving DecidableEq, Repr

/-- How a run is paced, and which register its shifts read. -/
structure Settings where
  /-- Instructions in a second. -/
  cpuRate : Nat
  /-- Timer ticks in a second. -/
  timerRate : Nat
  /-- Time between two looks at the clock. -/
  pollInterval : Nat
  /-- Periods made up for after a stall. -/
  catchUp : Nat
  /-- The register that a shift reads. -/
  shift : ShiftOperand
deriving DecidableEq, Repr

namespace Settings

/-- Nanoseconds in a second. -/
def second : Nat := 1000000000

/-- Instructions in a second unless a host asks for others. -/
def defaultCpuRate : Nat := 540

/-- A poll each millisecond, eight periods of catching up, shifts in place. -/
def default : Settings := ⟨defaultCpuRate, Timers.rate, 1000000, 8, .vx⟩

/-- At least one instruction in a second. -/
def withCpuRate (settings : Settings) (rate : Nat) : Settings :=
  { settings with cpuRate := max 1 rate }

/-- At least one tick in a second. -/
def withTimerRate (settings : Settings) (rate : Nat) : Settings :=
  { settings with timerRate := max 1 rate }

/-- At least one period of catching up. -/
def withCatchUp (settings : Settings) (periods : Nat) : Settings :=
  { settings with catchUp := max 1 periods }

/-- The whole nanoseconds between two events of a rate; rate zero counts as one. -/
def period (rate : Nat) : Nat := second / max 1 rate

/-- Time between two instructions. -/
def cpuPeriod (settings : Settings) : Nat := period settings.cpuRate

/-- Time between two timer ticks. -/
def timerPeriod (settings : Settings) : Nat := period settings.timerRate

end Settings

end Chip8
