import Chip8.Diagnostic

/-!
# Schedules

A schedule turns readings of a clock into counts of equal periods that have become due.
Times are whole nanoseconds on a clock whose zero is arbitrary. After a stall no more than a
limited number of periods is made up for, and the schedule starts anew from the reading.
-/
namespace Chip8

/-- When the next period is due. -/
structure Schedule where
  /-- The length of a period. -/
  period : Nat
  /-- The moment at which the next period is due. -/
  next : Int
  /-- The most periods that one reading makes due. -/
  limit : Nat
deriving DecidableEq, Repr

namespace Schedule

/-- The first period is due one period after the start, and the limit is at least one. -/
def start (period : Nat) (moment : Int) (catchUp : Nat) : Schedule :=
  ⟨period, moment + period, max 1 catchUp⟩

/-- Periods are counted off while they are due, up to a number of rounds; the result is the
count and the first moment not counted. -/
def countOff (period : Nat) (now : Int) : Nat → Nat → Int → Nat × Int
  | 0, count, next => (count, next)
  | rounds + 1, count, next =>
    if next ≤ now then countOff period now rounds (count + 1) (next + period)
    else (count, next)

/-- What a reading of the clock brings about. -/
structure Reading where
  /-- The periods that have become due. -/
  count : Nat
  /-- The schedule afterwards. -/
  schedule : Schedule
  /-- Whether further periods were dropped is reported. -/
  notes : List Diagnostic

/-- A reading makes due every period up to it, but no more than the limit; if some are left
they are dropped and the schedule starts anew from the reading. -/
def due (schedule : Schedule) (now : Int) : Reading :=
  let (count, next) := countOff schedule.period now schedule.limit 0 schedule.next
  if next ≤ now then ⟨count, { schedule with next := now + schedule.period }, [.fellBehind]⟩
  else ⟨count, { schedule with next }, []⟩

end Schedule

end Chip8
