import Chip8.Proofs.Erasure

/-!
# Ticks do not show

The timers of a machine tick at the pace of some clock, which no program can foresee. Insert ticks
into a history wherever one likes: as long as no instruction reads the delay timer, the operations
of the host are answered as before, the same instructions are executed, and the machine is the same
but for its timers (`ticks_unnoticed`). Two histories that differ in their ticks alone are therefore
compared through the history that has none (`concur_tickless`).
-/
namespace Chip8

namespace Operation

/-- Whether an operation is a tick of the timers. -/
def isTick : Operation → Bool
  | .tick => true
  | _ => false

/-- A history without its ticks. -/
def tickless (history : List Operation) : List Operation :=
  history.filter fun operation => !operation.isTick

/-- A tick is left out. -/
theorem tickless_tick (later : List Operation) : tickless (.tick :: later) = tickless later := rfl

/-- Any other operation stays. -/
theorem tickless_cons {operation : Operation} (other : operation.isTick = false)
    (later : List Operation) :
    tickless (operation :: later) = operation :: tickless later := by
  have stays : (!operation.isTick) = true := by rw [other]; rfl
  exact List.filter_cons_of_pos stays

end Operation

open Operation (tickless tickless_tick tickless_cons)

namespace Machine

/-- What a host learns from the operations of a history other than ticks, in order. -/
def answers (machine : Machine) : List Operation → List Reply
  | [] => []
  | operation :: later =>
    let rest := answers (machine.perform operation).2 later
    if operation.isTick then rest else (machine.perform operation).1 :: rest

/-- No instruction of a history reads the delay timer. -/
def Unread (machine : Machine) (history : List Operation) : Prop :=
  ∀ x, .readDelay x ∉ machine.executed history

/-- Two machines answer the operations of two histories alike but for ticks, execute the same
instructions, and then differ in their timers alone. -/
structure Concur (left right : Machine) (first second : List Operation) : Prop where
  /-- Operations other than ticks are answered alike. -/
  answers : left.answers first = right.answers second
  /-- The same instructions are executed. -/
  executed : left.executed first = right.executed second
  /-- The machines differ in their timers alone. -/
  machines : (left.performAll first).untimed = (right.performAll second).untimed

variable {machine left middle right : Machine} {first second third : List Operation}

/-- Concurring is symmetric. -/
theorem Concur.symm (concur : left.Concur right first second) : right.Concur left second first :=
  ⟨concur.answers.symm, concur.executed.symm, concur.machines.symm⟩

/-- Concurring is transitive. -/
theorem Concur.trans (earlier : left.Concur middle first second)
    (later : middle.Concur right second third) : left.Concur right first third :=
  ⟨earlier.answers.trans later.answers, earlier.executed.trans later.executed,
    earlier.machines.trans later.machines⟩

/-- An operation other than a tick is answered before the rest of its history. -/
theorem answers_cons {operation : Operation} (other : operation.isTick = false)
    (later : List Operation) :
    machine.answers (operation :: later) =
      (machine.perform operation).1 :: (machine.perform operation).2.answers later := by
  rw [answers, other]
  rfl

/-- The first operation of a history that does not read the delay timer does not read it. -/
theorem Unread.head {operation : Operation} {later : List Operation}
    (unread : machine.Unread (operation :: later)) (x : UInt8) :
    (machine.perform operation).1.executed? ≠ some (.readDelay x) := fun reads =>
  unread x (List.mem_append_left _ (Option.mem_toList.2 reads))

/-- Nor does the rest of the history. -/
theorem Unread.tail {operation : Operation} {later : List Operation}
    (unread : machine.Unread (operation :: later)) :
    (machine.perform operation).2.Unread later := fun x member =>
  unread x (List.mem_append_right _ member)

/-- Nor does any beginning of the history. -/
theorem Unread.take (unread : machine.Unread first) (moment : Nat) :
    machine.Unread (first.take moment) := by
  intro x member
  refine unread x ?_
  rw [← List.take_append_drop moment first, executed_append]
  exact List.mem_append_left _ member

/-- Machines that differ in their timers alone answer every operation alike, and then still differ
in nothing else, unless the operation reads the delay timer. -/
theorem perform_of_untimed_eq (same : left.untimed = right.untimed) (operation : Operation) :
    (left.perform operation).1 = (right.perform operation).1 ∧
      ((∀ x, (right.perform operation).1.executed? ≠ some (.readDelay x)) →
        (left.perform operation).2.untimed = (right.perform operation).2.untimed) := by
  cases operation with
  | step =>
    obtain ⟨outcomes, machines⟩ := step_of_untimed_eq same
    exact ⟨congrArg Reply.outcome outcomes, machines⟩
  | execute ins =>
    have outcomes := (Aligned.of_untimed_eq same).outcome ins
    refine ⟨congrArg Reply.outcome outcomes, fun timeless => ?_⟩
    have plain : ∀ x, ins ≠ .readDelay x := by
      rintro x rfl
      exact timeless x rfl
    show (left.effect ins).untimed = (right.effect ins).untimed
    rw [← untimed_effect plain, same, untimed_effect plain]
  | tick => exact ⟨rfl, fun _ => same⟩
  | _ =>
    -- What is left reads no timer.
    exact ⟨observe_of_untimed_eq (fun machine => (machine.perform _).1) (fun _ => rfl) same,
      fun _ => observe_of_untimed_eq (fun machine => (machine.perform _).2.untimed)
        (fun _ => rfl) same⟩

/-- A history concurs with itself without its ticks, on machines that differ in their timers alone,
as long as one of the two does not read the delay timer. -/
theorem concur_tickless {history : List Operation} (same : left.untimed = right.untimed)
    (unread : left.Unread history ∨ right.Unread (tickless history)) :
    left.Concur right history (tickless history) := by
  induction history generalizing left right with
  | nil => exact ⟨rfl, rfl, same⟩
  | cons operation later inductionHypothesis =>
    cases ticks : operation.isTick with
    | true =>
      cases operation with
      | tick =>
        rw [tickless_tick] at unread ⊢
        have rest := unread.imp_left Unread.tail
        have ticked : left.tick.untimed = right.untimed := same
        -- The tick is no answer and executes nothing, so the rest of the history decides.
        have concur := inductionHypothesis ticked rest
        exact ⟨concur.answers, concur.executed, concur.machines⟩
      | _ => cases ticks
    | false =>
      rw [tickless_cons ticks] at unread ⊢
      obtain ⟨replies, machines⟩ := perform_of_untimed_eq same operation
      -- Both sides execute the same instruction, so either hypothesis speaks of both.
      have timeless : ∀ x, (right.perform operation).1.executed? ≠ some (.readDelay x) := by
        rcases unread with first | second
        · exact replies ▸ first.head
        · exact second.head
      have rest := unread.imp Unread.tail Unread.tail
      have concur := inductionHypothesis (machines timeless) rest
      refine ⟨?_, ?_, concur.machines⟩
      · rw [answers_cons ticks, answers_cons ticks, replies, concur.answers]
      · rw [executed, executed, replies, concur.executed]

/-- Histories that differ in their ticks alone concur, as long as the first does not read the delay
timer. -/
theorem concur_of_unread (same : left.untimed = right.untimed)
    (inserted : tickless first = tickless second) (unread : left.Unread first) :
    left.Concur right first second := by
  have without : left.Concur left first (tickless first) := concur_tickless rfl (.inl unread)
  rw [inserted] at without
  have quiet : left.Unread (tickless second) := by
    intro x
    rw [← without.executed]
    exact unread x
  exact without.trans (concur_tickless same.symm (.inr quiet)).symm

/-- **Ticks do not show.** Perform the same operations on two machines that differ in their timers
alone, with ticks inserted in any numbers at any points, not necessarily the same. As long as no
instruction of one of the two histories reads the delay timer, every operation but a tick is
answered alike, the same instructions are executed, and the machines differ in their timers alone,
at the end and whenever the same operations have been performed on both. -/
theorem ticks_unnoticed (same : left.untimed = right.untimed)
    (inserted : tickless first = tickless second)
    (unread : left.Unread first ∨ right.Unread second) :
    left.Concur right first second ∧
      ∀ m n, tickless (first.take m) = tickless (second.take n) →
        (left.performAll (first.take m)).untimed = (right.performAll (second.take n)).untimed := by
  have concurs : ∀ {earlier later : List Operation}, tickless earlier = tickless later →
      left.Unread earlier ∨ right.Unread later → left.Concur right earlier later := by
    rintro earlier later inserted (quiet | quiet)
    · exact concur_of_unread same inserted quiet
    · exact (concur_of_unread same.symm inserted.symm quiet).symm
  refine ⟨concurs inserted unread, fun m n reached => ?_⟩
  have quiet := unread.imp (Unread.take · m) (Unread.take · n)
  exact (concurs reached quiet).machines

/-- A machine whose program sets both timers from a register. -/
def setsTimers : Machine := (initial.load [0x60, 0x09, 0xF0, 0x15, 0xF0, 0x18]).machine

/-- A history of that machine that ticks early. -/
def early : List Operation := [.tick, .step, .step, .tick, .step]

/-- The same history with more ticks, and later ones. -/
def late : List Operation := [.step, .step, .step, .tick, .tick, .tick]

/-- The two histories leave different timers and nothing else that differs. -/
theorem ticks_unnoticed_early_late :
    (setsTimers.performAll early).timers ≠ (setsTimers.performAll late).timers ∧
      setsTimers.Concur setsTimers early late := by
  have timers : (setsTimers.performAll early).timers ≠ (setsTimers.performAll late).timers := by
    decide +kernel
  have executed : setsTimers.executed early = [.setByte 0 9, .setDelay 0, .setSound 0] := by
    decide +kernel
  have unread : setsTimers.Unread early := by
    intro x member
    rw [executed] at member
    simp at member
  have inserted : tickless early = tickless late := rfl
  exact ⟨timers, (ticks_unnoticed rfl inserted (.inl unread)).1⟩

end Machine

end Chip8
