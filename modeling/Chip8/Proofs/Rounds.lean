import Chip8.Proofs.Deadlines
import Chip8.Settings

/-!
# What one reading of the clock brings about

Counting off is a loop of rounds: as long as the next period is due and fewer were counted than the
limit allows, another round counts one and moves the deadline behind it. Nothing but these two
conditions ends it (`Rounds`), and still it ends within as many rounds as the limit allows and leaves
what `countOff` computes (`rounds_countOff`). If a period is still due then, the schedule starts anew.
For periods that have a length the outcome is one quotient, compared with the limit
(`due_of_passed`); periods of no length are due as often as the limit allows (`due_of_endless`).
Together that answers every reading, also one that lies before others (`due_answers`).
-/
namespace Chip8.Schedule

/-- Where counting off stands: the periods counted, and the first moment not counted. -/
structure Tallied where
  /-- The periods counted. -/
  count : Nat
  /-- The first moment not counted. -/
  next : Int

/-- Another round is made if the next period is due and the limit leaves room for it. -/
def GoesOn (schedule : Schedule) (now : Int) (state : Tallied) : Prop :=
  state.next ≤ now ∧ state.count < schedule.limit

/-- A round counts one period and moves on to the next. -/
def round (schedule : Schedule) (state : Tallied) : Tallied :=
  ⟨state.count + 1, state.next + schedule.period⟩

/-- The loop comes from one state to its last in a number of rounds. Nothing bounds their number. -/
inductive Rounds (schedule : Schedule) (now : Int) : Nat → Tallied → Tallied → Prop
  /-- No further round is made. -/
  | ends {state : Tallied} (stops : ¬schedule.GoesOn now state) : Rounds schedule now 0 state state
  /-- A round is made, and the loop goes on from there. -/
  | goes {number : Nat} {before after : Tallied} (goesOn : schedule.GoesOn now before)
    (rest : Rounds schedule now number (schedule.round before) after) :
    Rounds schedule now (number + 1) before after

variable {schedule : Schedule} {now : Int} {number : Nat} {before after : Tallied}

/-- The loop ends in one way only. -/
theorem Rounds.unique {other : Nat} {last : Tallied} (rounds : schedule.Rounds now number before after)
    (others : schedule.Rounds now other before last) : number = other ∧ after = last := by
  induction rounds generalizing other last with
  | ends stops =>
    cases others with
    | ends => exact ⟨rfl, rfl⟩
    | goes goesOn => exact absurd goesOn stops
  | goes goesOn rest inductionHypothesis =>
    cases others with
    | ends stops => exact absurd goesOn stops
    | goes _ others =>
      obtain ⟨rfl, rfl⟩ := inductionHypothesis others
      exact ⟨rfl, rfl⟩

/-- Each round counts one period and moves the deadline by one. -/
theorem Rounds.after_eq (rounds : schedule.Rounds now number before after) :
    after = ⟨before.count + number, before.next + number * schedule.period⟩ := by
  induction rounds with
  | ends => simp
  | goes goesOn rest inductionHypothesis =>
    rw [inductionHypothesis, round, Int.natCast_add, Int.add_mul]
    simp only [Tallied.mk.injEq]
    omega

/-- Within the rounds that the limit leaves room for, the loop ends with what counting off computes. -/
theorem rounds_countOff (schedule : Schedule) (now : Int) {room count : Nat} (next : Int)
    (leaves : count + room = schedule.limit) :
    ∃ number ≤ room, schedule.Rounds now number ⟨count, next⟩
      ⟨(countOff schedule.period now room count next).1,
        (countOff schedule.period now room count next).2⟩ := by
  induction room generalizing count next with
  | zero =>
    refine ⟨0, Nat.le_refl 0, .ends fun goesOn => ?_⟩
    have room := goesOn.2
    dsimp only at room
    omega
  | succ room inductionHypothesis =>
    rw [countOff]
    split
    · rename_i due
      obtain ⟨number, within, rounds⟩ :=
        @inductionHypothesis (count + 1) (next + schedule.period) (by omega)
      refine ⟨number + 1, Nat.succ_le_succ within, .goes ⟨due, ?_⟩ rounds⟩
      show count < schedule.limit
      omega
    · rename_i early
      exact ⟨0, Nat.zero_le _, .ends fun goesOn => early goesOn.1⟩

/-- A reading counts what counting off counts. -/
theorem count_due (schedule : Schedule) (now : Int) :
    (schedule.due now).count =
      (countOff schedule.period now schedule.limit 0 schedule.next).1 := by
  rw [due]
  generalize countOff schedule.period now schedule.limit 0 schedule.next = counted
  obtain ⟨count, next⟩ := counted
  dsimp only
  split
  · rfl
  · rfl

/-- The loop runs from the deadline of a schedule for as many rounds as the reading counts, which is no
more than the limit, and it does not run in any other way. -/
theorem rounds_due (schedule : Schedule) (now : Int) :
    (schedule.due now).count ≤ schedule.limit ∧
      ∀ (number : Nat) (after : Tallied), schedule.Rounds now number ⟨0, schedule.next⟩ after ↔
        number = (schedule.due now).count ∧
          after = ⟨number, schedule.next + number * schedule.period⟩ := by
  obtain ⟨made, within, rounds⟩ :=
    rounds_countOff schedule now schedule.next (Nat.zero_add schedule.limit)
  have counted : (schedule.due now).count = made := by
    rw [count_due]
    exact (congrArg Tallied.count rounds.after_eq).trans (Nat.zero_add made)
  rw [counted]
  refine ⟨within, fun number after => ⟨fun others => ?_, ?_⟩⟩
  · obtain rfl := (others.unique rounds).1
    rw [others.after_eq, Nat.zero_add]
    exact ⟨rfl, rfl⟩
  · rintro ⟨rfl, rfl⟩
    rw [rounds.after_eq, Nat.zero_add] at rounds
    exact rounds

/-- Before the deadline nothing is due and nothing changes. -/
theorem due_of_early (early : now < schedule.next) : schedule.due now = ⟨0, schedule, []⟩ := by
  have ahead : ¬schedule.next ≤ now := Int.not_le.2 early
  have stays : countOff schedule.period now schedule.limit 0 schedule.next = (0, schedule.next) := by
    cases schedule.limit with
    | zero => rfl
    | succ limit => rw [countOff, if_neg ahead]
  simp only [due, stays, if_neg ahead]

/-- At the deadline and after it, the periods that are due are one more than have elapsed since. They
are counted up to the limit, and beyond it the schedule starts anew. -/
theorem due_of_passed (positive : 0 < schedule.period) (passed : schedule.next ≤ now) :
    let waiting := elapsed schedule.period schedule.next now + 1
    schedule.due now =
      ⟨min waiting schedule.limit,
        { schedule with
          next := if waiting ≤ schedule.limit then schedule.next + waiting * schedule.period
            else now + schedule.period },
        if waiting ≤ schedule.limit then [] else [.fellBehind]⟩ := by
  intro waiting
  have shift := @elapsed_add schedule.period (schedule.next - schedule.period) now positive 1
  have first := @succ_le_elapsed_iff schedule.period (schedule.next - schedule.period) now positive 0
  have origin : schedule.next - schedule.period + (1 : Nat) * schedule.period = schedule.next := by
    omega
  rw [origin] at shift
  have same : elapsed schedule.period (schedule.next - schedule.period) now = waiting := by
    simp only [waiting]
    omega
  rw [due_of_positive schedule positive now, same]
  split
  · rename_i within
    rw [Nat.min_eq_left within]
  · rename_i beyond
    rw [Nat.min_eq_right (Nat.le_of_not_le beyond)]

/-- Periods of no length are due as often as the limit allows, and always fall behind. -/
theorem due_of_endless (none : schedule.period = 0) (passed : schedule.next ≤ now) :
    schedule.due now = ⟨schedule.limit, { schedule with next := now }, [.fellBehind]⟩ := by
  have whole (rounds count : Nat) :
      countOff 0 now rounds count schedule.next = (count + rounds, schedule.next) := by
    induction rounds generalizing count with
    | zero => rfl
    | succ rounds inductionHypothesis =>
      have same : schedule.next + (0 : Nat) = schedule.next := Int.add_zero _
      rw [countOff, if_pos passed, same, inductionHypothesis, Nat.add_right_comm]
      rfl
  have again : now + (0 : Nat) = now := Int.add_zero now
  simp only [due, none, whole, if_pos passed, Nat.zero_add, again]

/-- The deadline that a reading leaves is later than the reading, but by no more than a period, unless
it was so before. -/
theorem due_next_bounds (positive : 0 < schedule.period) (now : Int) :
    now < (schedule.due now).schedule.next ∧
      (schedule.due now).schedule.next ≤ max schedule.next (now + schedule.period) := by
  by_cases passed : schedule.next ≤ now
  · have reaches (count : Nat) :=
      @succ_le_elapsed_iff schedule.period schedule.next now positive count
    rw [due_of_passed positive passed]
    generalize elapsed schedule.period schedule.next now = count at reaches ⊢
    have beyond := reaches count
    have reached : schedule.next + count * schedule.period ≤ now := by
      cases count with
      | zero => simpa using passed
      | succ count => exact (reaches count).1 (Nat.le_refl _)
    rw [Int.add_mul] at beyond
    rw [Int.natCast_add, Int.add_mul]
    dsimp only
    split <;> omega
  · rw [due_of_early (Int.lt_of_not_ge passed)]
    dsimp only
    omega

/-- What a reading answers: the periods it makes due, the deadline it leaves, and what it reports. -/
structure Answers (schedule : Schedule) (now : Int) (reading : Reading) : Prop where
  /-- Before the deadline nothing is due and nothing changes. -/
  early : now < schedule.next → reading = ⟨0, schedule, []⟩
  /-- At the deadline and after it, the periods that are due are one more than have elapsed since. They
  are counted up to the limit, and beyond it the schedule starts anew, which is reported once. -/
  passed : schedule.next ≤ now → 0 < schedule.period →
    let waiting := elapsed schedule.period schedule.next now + 1
    reading =
      ⟨min waiting schedule.limit,
        { schedule with
          next := if waiting ≤ schedule.limit then schedule.next + waiting * schedule.period
            else now + schedule.period },
        if waiting ≤ schedule.limit then [] else [.fellBehind]⟩
  /-- Periods of no length are due as often as the limit allows. -/
  endless : schedule.next ≤ now → schedule.period = 0 →
    reading = ⟨schedule.limit, { schedule with next := now }, [.fellBehind]⟩
  /-- The loop ends within as many rounds as the limit allows. -/
  bounded : reading.count ≤ schedule.limit
  /-- It makes as many rounds as are counted, and in no other way does it run. -/
  rounds : ∀ (number : Nat) (after : Tallied),
    schedule.Rounds now number ⟨0, schedule.next⟩ after ↔
      number = reading.count ∧ after = ⟨number, schedule.next + number * schedule.period⟩
  /-- The deadline that is left is later than the reading. -/
  ahead : 0 < schedule.period → now < reading.schedule.next
  /-- No deadline is set later than a period after the reading. -/
  near : 0 < schedule.period → reading.schedule.next ≤ max schedule.next (now + schedule.period)
  /-- A second reading at the same moment makes nothing due. -/
  again : 0 < schedule.period → reading.schedule.due now = ⟨0, reading.schedule, []⟩

/-- **What one reading of the clock brings about.** Whatever the deadline, the length of the periods and
the limit, and wherever the clock stands, the periods made due, the deadline left and the report are
those of the closed form; the loop that counts them off ends; and unless the periods have no length, the
moment of the reading is then dealt with. -/
theorem due_answers (schedule : Schedule) (now : Int) :
    schedule.Answers now (schedule.due now) where
  early := due_of_early
  passed := fun passed positive => due_of_passed positive passed
  endless := fun passed none => due_of_endless none passed
  bounded := (rounds_due schedule now).1
  rounds := (rounds_due schedule now).2
  ahead := fun positive => (due_next_bounds positive now).1
  near := fun positive => (due_next_bounds positive now).2
  again := fun positive => due_of_early (due_next_bounds positive now).1

/-- Periods of 10 that are first due at 17, of which a reading makes up at most 3. -/
def steady : Schedule := start 10 7 3

/-- More instructions in a second than it has nanoseconds, so that their periods have no length. -/
def frantic : Schedule := start (Settings.period 1000000001) 7 3

/-- Exactly three steady periods are counted at 39 and leave the deadline in step; of four at 47 one is
dropped, and neither a second reading then nor an earlier one counts any more. Frantic periods fall
behind at once. -/
theorem due_answers_boundary :
    steady.due 39 = ⟨3, { steady with next := 47 }, []⟩ ∧
      steady.due 47 = ⟨3, { steady with next := 57 }, [.fellBehind]⟩ ∧
      (steady.due 47).schedule.due 47 = ⟨0, (steady.due 47).schedule, []⟩ ∧
      (steady.due 47).schedule.due 20 = ⟨0, (steady.due 47).schedule, []⟩ ∧
      frantic.due 9 = ⟨3, { frantic with next := 9 }, [.fellBehind]⟩ := by
  have third := (due_answers steady 39).passed (by decide) (by decide)
  have fourth := (due_answers steady 47).passed (by decide) (by decide)
  have left : (20 : Int) < (steady.due 47).schedule.next := by
    rw [fourth]
    decide
  exact ⟨third, fourth, (due_answers steady 47).again (by decide), (due_answers _ 20).early left,
    (due_answers frantic 9).endless (by decide) (by decide)⟩

end Chip8.Schedule
