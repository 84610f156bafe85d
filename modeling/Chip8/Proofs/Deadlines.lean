import Chip8.Schedule
import Mathlib.Data.List.Pairwise

/-!
# A schedule neither drifts nor counts too much

The periods that have elapsed by a reading of the clock are a quotient, and the periods that a
reading makes due are those elapsed since one period before the deadline, up to the limit
(`due_of_positive`). A reading moves the deadline in two ways, by the periods it counted or to one
period after itself; either way the deadline stays at least one period ahead of all that was
counted, so the counts never exceed the periods elapsed since the start. As long as no reading comes
upon more periods than the limit, the deadline stays exactly one period ahead, and the counts make
up the periods elapsed, however the readings are spaced (`tally_of_rising`).
-/
namespace Chip8.Schedule

/-- The whole periods from an origin to a reading, or none if the reading is before the origin. -/
def elapsed (period : Nat) (origin now : Int) : Nat := ((now - origin) / period).toNat

/-- The periods that a list of readings makes due, all together. -/
def tally (schedule : Schedule) : List Int → Nat
  | [] => 0
  | now :: later => (schedule.due now).count + (schedule.due now).schedule.tally later

/-- The whole periods elapsed at the start, where there are none, and at each of a list of
readings. -/
def lapses (period : Nat) (origin : Int) (readings : List Int) : List Nat :=
  0 :: readings.map (elapsed period origin)

variable {period : Nat} {origin now next : Int}

/-- A number of periods has elapsed exactly when the last of them ends by the reading. -/
theorem succ_le_elapsed_iff (positive : 0 < period) {count : Nat} :
    count + 1 ≤ elapsed period origin now ↔ origin + (count + 1) * period ≤ now := by
  have divisor : (0 : Int) < period := by omega
  have quotient := @Int.le_ediv_iff_mul_le (count + 1) (now - origin) period divisor
  rw [elapsed]
  omega

/-- More time elapses by a later reading. -/
theorem elapsed_mono (positive : 0 < period) {later : Int} (rising : now ≤ later) :
    elapsed period origin now ≤ elapsed period origin later := by
  cases count : elapsed period origin now with
  | zero => exact Nat.zero_le _
  | succ count' =>
    have ends := (succ_le_elapsed_iff positive).1 (Nat.le_of_eq count.symm)
    exact (succ_le_elapsed_iff positive).2 (Int.le_trans ends rising)

/-- From an origin that lies some periods later, so many periods less have elapsed. -/
theorem elapsed_add (positive : 0 < period) (count : Nat) :
    elapsed period (origin + count * period) now = elapsed period origin now - count := by
  have divisor : (period : Int) ≠ 0 := by omega
  have shifted : now - (origin + count * period) = now - origin + -count * period := by
    rw [Int.neg_mul]
    omega
  rw [elapsed, elapsed, shifted, Int.add_mul_ediv_right _ _ divisor]
  omega

/-- From a later origin fewer periods have elapsed. -/
theorem elapsed_anti (positive : 0 < period) {late : Int} (behind : origin ≤ late) (now : Int) :
    elapsed period late now ≤ elapsed period origin now := by
  cases count : elapsed period late now with
  | zero => exact Nat.zero_le _
  | succ count' =>
    have ends := (succ_le_elapsed_iff positive).1 (Nat.le_of_eq count.symm)
    refine (succ_le_elapsed_iff positive).2 (Int.le_trans ?_ ends)
    exact Int.add_le_add_right behind _

/-- Counting off takes the periods elapsed since one period before the deadline, up to the number of
rounds, and moves the deadline behind them. -/
theorem countOff_eq (positive : 0 < period) (rounds count : Nat) :
    countOff period now rounds count next =
      (count + min (elapsed period (next - period) now) rounds,
        next + (min (elapsed period (next - period) now) rounds : Nat) * period) := by
  induction rounds generalizing count next with
  | zero => simp [countOff]
  | succ rounds inductionHypothesis =>
    have first := @succ_le_elapsed_iff period (next - period) now positive 0
    rw [countOff]
    by_cases due : next ≤ now
    · have shift := @elapsed_add period (next - period) now positive 1
      have origin : next - period + (1 : Nat) * period = next + period - period := by omega
      rw [origin] at shift
      have split : min (elapsed period (next - period) now) (rounds + 1) =
          min (elapsed period (next + period - period) now) rounds + 1 := by omega
      rw [if_pos due, inductionHypothesis, split, Int.natCast_add, Int.add_mul]
      simp only [Prod.mk.injEq]
      omega
    · have none : min (elapsed period (next - period) now) (rounds + 1) = 0 := by omega
      rw [if_neg due, none]
      simp

/-- A reading counts the periods that are due and moves the deadline behind them if they are no more
than the limit; if they are more, it counts the limit, reports that some were dropped and starts the
schedule anew. -/
theorem due_of_positive (schedule : Schedule) (positive : 0 < schedule.period) (now : Int) :
    let waiting := elapsed schedule.period (schedule.next - schedule.period) now
    schedule.due now =
      if waiting ≤ schedule.limit then
        ⟨waiting, { schedule with next := schedule.next + waiting * schedule.period }, []⟩
      else ⟨schedule.limit, { schedule with next := now + schedule.period }, [.fellBehind]⟩ := by
  have counted := @countOff_eq schedule.period now schedule.next positive schedule.limit 0
  have beyond := @succ_le_elapsed_iff schedule.period (schedule.next - schedule.period) now positive
  generalize elapsed schedule.period (schedule.next - schedule.period) now = waiting
    at counted beyond
  have deadline (count : Nat) : schedule.next + count * schedule.period ≤ now ↔ count < waiting := by
    rw [← Nat.succ_le_iff, beyond, Int.add_mul]
    omega
  rw [due, counted]
  by_cases within : waiting ≤ schedule.limit
  · have all : min waiting schedule.limit = waiting := Nat.min_eq_left within
    have caught : ¬schedule.next + waiting * schedule.period ≤ now := by
      rw [deadline]
      omega
    simp only [all, if_pos within, if_neg caught, Nat.zero_add]
  · have most : min waiting schedule.limit = schedule.limit := by omega
    have behind : schedule.next + schedule.limit * schedule.period ≤ now := by
      rw [deadline]
      omega
    simp only [most, if_neg within, if_pos behind, Nat.zero_add]

/-- What a reading counts stays within the periods elapsed by it, and the deadline stays at least one
period ahead of all that was counted. -/
theorem due_ahead {schedule : Schedule} {before : Nat} (positive : 0 < schedule.period)
    (ahead : origin + (before + 1) * schedule.period ≤ schedule.next) (now : Int) :
    let reading := schedule.due now
    before + reading.count ≤ max before (elapsed schedule.period origin now) ∧
      origin + ((before + reading.count : Nat) + 1) * schedule.period ≤ reading.schedule.next := by
  have source : origin + before * schedule.period ≤ schedule.next - schedule.period := by
    rw [Int.add_mul] at ahead
    omega
  have fewer := elapsed_anti positive source now
  have beyond := @succ_le_elapsed_iff schedule.period (schedule.next - schedule.period) now positive
    schedule.limit
  rw [elapsed_add positive] at fewer
  rw [due_of_positive schedule positive now]
  split
  · refine ⟨by dsimp only; omega, ?_⟩
    simp only [Int.natCast_add, Int.add_mul] at ahead ⊢
    omega
  · refine ⟨by dsimp only; omega, ?_⟩
    have behind := beyond.1 (by omega)
    simp only [Int.natCast_add, Int.add_mul] at ahead behind ⊢
    omega

/-- A reading that comes upon no more periods than the limit counts them all, and the deadline stays
exactly one period ahead. -/
theorem due_exact {schedule : Schedule} {before : Nat} (positive : 0 < schedule.period)
    (exactly : schedule.next = origin + (before + 1) * schedule.period)
    (later : before ≤ elapsed schedule.period origin now)
    (within : elapsed schedule.period origin now - before ≤ schedule.limit) :
    schedule.due now = ⟨elapsed schedule.period origin now - before,
      { schedule with
        next := origin + (elapsed schedule.period origin now + 1) * schedule.period }, []⟩ := by
  have source : schedule.next - schedule.period = origin + before * schedule.period := by
    rw [exactly, Int.add_mul]
    omega
  have moved : schedule.next + (elapsed schedule.period origin now - before : Nat) *
      schedule.period = origin + (elapsed schedule.period origin now + 1) * schedule.period := by
    rw [exactly, Int.natCast_sub later, Int.sub_mul]
    simp only [Int.add_mul]
    omega
  rw [due_of_positive schedule positive now, source, elapsed_add positive, if_pos within, moved]

/-- A reading leaves the length of the periods and the limit alone. -/
theorem due_period_limit (schedule : Schedule) (now : Int) :
    (schedule.due now).schedule.period = schedule.period ∧
      (schedule.due now).schedule.limit = schedule.limit := by
  rw [due]
  split
  exact ⟨by split <;> rfl, by split <;> rfl⟩

/-- The counts of all readings stay within a number of periods that none of the readings exceeds. -/
theorem tally_le {schedule : Schedule} {before most : Nat} (positive : 0 < schedule.period)
    (ahead : origin + (before + 1) * schedule.period ≤ schedule.next) (fits : before ≤ most)
    {readings : List Int} (within : ∀ now ∈ readings, elapsed schedule.period origin now ≤ most) :
    before + schedule.tally readings ≤ most := by
  induction readings generalizing schedule before with
  | nil => exact fits
  | cons now later inductionHypothesis =>
    have kept := due_period_limit schedule now
    have step := due_ahead positive ahead now
    have first := within now List.mem_cons_self
    have rest : ∀ moment ∈ later, elapsed schedule.period origin moment ≤ most :=
      fun moment member => within moment (List.mem_cons_of_mem now member)
    rw [← kept.1] at positive rest
    rw [tally, ← Nat.add_assoc]
    apply inductionHypothesis positive _ (by omega) rest
    rw [kept.1]
    exact step.2

/-- As long as no reading comes upon more periods than the limit, the counts make up the periods
elapsed by the last reading. -/
theorem tally_exact {schedule : Schedule} {before : Nat} (positive : 0 < schedule.period)
    (exactly : schedule.next = origin + (before + 1) * schedule.period) {readings : List Int}
    (rising : (before :: readings.map (elapsed schedule.period origin)).Pairwise (· ≤ ·))
    (within : (before :: readings.map (elapsed schedule.period origin)).IsChain
      (fun earlier later => later - earlier ≤ schedule.limit)) :
    before + schedule.tally readings =
      (before :: readings.map (elapsed schedule.period origin)).getLastD 0 := by
  induction readings generalizing schedule before with
  | nil => simp [tally]
  | cons now later inductionHypothesis =>
    simp only [List.map_cons, List.isChain_cons_cons] at within
    have first := List.rel_of_pairwise_cons rising List.mem_cons_self
    have step := due_exact positive exactly first within.1
    have rest := @inductionHypothesis { schedule with
        next := origin + (elapsed schedule.period origin now + 1) * schedule.period } _
      positive rfl (List.Pairwise.of_cons rising) within.2
    have sum : before + (elapsed schedule.period origin now - before) =
        elapsed schedule.period origin now := Nat.add_sub_cancel' first
    rw [tally, step, ← Nat.add_assoc, sum, rest]
    simp

/-- **A schedule neither drifts nor counts too much.** Over readings that do not go back, the counts
never exceed the periods elapsed since the start; as long as no reading comes upon more new periods
than the limit, they make up the periods elapsed, however the readings are spaced. -/
theorem tally_of_rising (positive : 0 < period) (origin : Int) (catchUp : Nat)
    {readings : List Int} (rising : readings.Pairwise (· ≤ ·)) :
    let counted := (start period origin catchUp).tally readings
    let passed := lapses period origin readings
    counted ≤ passed.getLastD 0 ∧
      (passed.IsChain (fun earlier later => later - earlier ≤ max 1 catchUp) →
        counted = passed.getLastD 0) := by
  intro counted passed
  have growing : passed.Pairwise (· ≤ ·) := by
    refine List.pairwise_cons.2 ⟨fun _ _ => Nat.zero_le _, ?_⟩
    exact rising.map _ fun _ _ => elapsed_mono positive
  have first : (start period origin catchUp).next =
      origin + ((0 : Nat) + 1) * (start period origin catchUp).period := by
    simp [start]
  refine ⟨?_, fun within => ?_⟩
  · have ahead := Int.le_of_eq first.symm
    have most (now : Int) (member : now ∈ readings) :
        elapsed period origin now ≤ passed.getLastD 0 := by
      have listed : elapsed period origin now ∈ passed :=
        List.mem_cons_of_mem 0 (List.mem_map_of_mem member)
      have last := List.getLast?_eq_some_getLast (List.ne_nil_of_mem listed)
      rw [List.getLastD_eq_getLast?, last]
      exact growing.rel_getLast listed
    have bounded := tally_le positive ahead (Nat.zero_le (passed.getLastD 0)) most
    rwa [Nat.zero_add] at bounded
  · have exactly := tally_exact positive first growing within
    rwa [Nat.zero_add] at exactly

/-- Periods of 10 from the moment 7, of which a reading makes up at most 3: a reading before the
start, one exactly at a deadline, two at the same moment and one after exactly 3 periods miss none of
the 6; after a longer stall some of the 9 are dropped. -/
theorem tally_of_rising_uneven :
    (start 10 7 3).tally [3, 17, 39, 39, 70] = 6 ∧ (start 10 7 3).tally [3, 17, 99] ≤ 9 := by
  have even := @tally_of_rising 10 (by decide) 7 3 [3, 17, 39, 39, 70] (by decide)
  have stalled := @tally_of_rising 10 (by decide) 7 3 [3, 17, 99] (by decide)
  have sixth : (lapses 10 7 [3, 17, 39, 39, 70]).getLastD 0 = 6 := by decide
  have ninth : (lapses 10 7 [3, 17, 99]).getLastD 0 = 9 := by decide
  rw [← sixth, ← ninth]
  exact ⟨even.2 (by decide), stalled.1⟩

end Chip8.Schedule
