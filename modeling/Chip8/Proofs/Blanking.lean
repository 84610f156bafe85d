import Chip8.Proofs.Moments
import Chip8.Proofs.Publishing

/-!
# A blanked screen goes unannounced

A host that takes the picture from the machine itself keeps the last one that it was given. As long
as nothing is loaded and nothing reset, a picture that does not wait to be taken is the one that the
host keeps. A reset and a loading turn every pixel off without a mark, and until something is drawn
the picture stays blank and unmarked (`Tracked`). So the host's copy is the machine's picture except
in one case: the machine was reset or loaded, nothing was drawn since, and the host keeps a picture
that is not blank (`current_iff_not_overlooked`).
-/
namespace Chip8

open Instruction (Drawn not_drawn_nil)

/-- The picture that a reply hands out, if it hands out one. -/
def Reply.picture? : Reply → Option Pixels
  | .frame pixels => pixels
  | .done | .outcome _ | .loaded _ => none

/-- A machine and a host that keeps the picture it took last. -/
structure Viewing where
  /-- The machine. -/
  machine : Machine
  /-- The picture that the host took last. -/
  held : Pixels

namespace Viewing

/-- A host that has seen nothing yet keeps a blank picture. -/
def start (machine : Machine) : Viewing := ⟨machine, Screen.blankPixels⟩

/-- The host performs an operation and keeps the picture that it is given, if it is given one. -/
def after (viewing : Viewing) (operation : Operation) : Viewing where
  machine := (viewing.machine.perform operation).2
  held := (viewing.machine.perform operation).1.picture?.getD viewing.held

/-- The machine and the host when so many operations of a history were performed. -/
def reached (viewing : Viewing) (history : List Operation) (moment : Nat) : Viewing :=
  (history.take moment).foldl after viewing

/-- The host's copy is the picture of the machine. -/
def Current (viewing : Viewing) : Prop := viewing.held = viewing.machine.screen.pixels

variable {viewing : Viewing} {history : List Operation} {operation : Operation} {now : Nat}

/-- An instruction that draws is executed at a moment. -/
def Draws (viewing : Viewing) (history : List Operation) (moment : Nat) : Prop :=
  ∃ operation, Happens history operation moment ∧
    Drawn ((viewing.reached history moment).machine.perform operation).1.executed?.toList

/-- The machine is reset, or a program loaded or refused, at a moment. -/
def Restarts (history : List Operation) (moment : Nat) : Prop :=
  ∃ operation, Happens history operation moment ∧ ¬operation.KeepsProgram

/-- The machine was reset or loaded and nothing was drawn since. -/
def Blanked (viewing : Viewing) (history : List Operation) (now : Nat) : Prop :=
  Since (Restarts history) (viewing.Draws history) now

/-- The picture was blanked while the host kept one that was not blank. -/
def Overlooked (viewing : Viewing) (history : List Operation) (now : Nat) : Prop :=
  viewing.Blanked history now ∧ (viewing.reached history now).held ≠ Screen.blankPixels

/-- The next moment is the present and the operation that is performed. -/
theorem reached_succ (happens : Happens history operation now) :
    viewing.reached history (now + 1) = (viewing.reached history now).after operation :=
  foldl_take_succ happens viewing

/-- Drawing at a moment is drawing by the operation that is performed. -/
theorem draws_iff (happens : Happens history operation now) :
    viewing.Draws history now ↔
      Drawn ((viewing.reached history now).machine.perform operation).1.executed?.toList := by
  simp only [Draws, happens_inj happens, exists_eq_left']

/-- Restarting at a moment is restarting by the operation that is performed. -/
theorem restarts_iff (happens : Happens history operation now) :
    Restarts history now ↔ ¬operation.KeepsProgram := by
  simp only [Restarts, happens_inj happens, exists_eq_left']

/-- The picture stays blanked until something is drawn. -/
theorem blanked_succ (happens : Happens history operation now) :
    viewing.Blanked history (now + 1) ↔
      ¬Drawn ((viewing.reached history now).machine.perform operation).1.executed?.toList ∧
        (¬operation.KeepsProgram ∨ viewing.Blanked history now) := by
  rw [Blanked, since_succ, draws_iff happens, restarts_iff happens, Blanked]

/-- An operation that goes on with the program and draws nothing leaves it at that. -/
theorem blanked_succ_of_still (happens : Happens history operation now)
    (keeps : operation.KeepsProgram)
    (still : ¬Drawn ((viewing.reached history now).machine.perform operation).1.executed?.toList) :
    viewing.Blanked history (now + 1) ↔ viewing.Blanked history now := by
  rw [blanked_succ happens, and_iff_right still]
  exact or_iff_right (not_not_intro keeps)

/-- A reset and a loading leave a blank picture that does not wait. -/
theorem screen_of_restart (machine : Machine) (restarts : ¬operation.KeepsProgram) :
    (machine.perform operation).2.screen = Screen.blank := by
  obtain ⟨memory, restarted⟩ := machine.perform_of_restart restarts
  exact congrArg Machine.screen restarted

/-- A reset and a loading execute nothing. -/
theorem not_drawn_of_restart (machine : Machine) (restarts : ¬operation.KeepsProgram) :
    ¬Drawn (machine.perform operation).1.executed?.toList := by
  cases operation with
  | load | reset => exact not_drawn_nil
  | _ => exact absurd trivial restarts

/-- Only taking the picture hands one out. -/
theorem held_after (viewing : Viewing) (other : operation ≠ .takeFrame) :
    (viewing.after operation).held = viewing.held := by
  cases operation with
  | takeFrame => exact absurd rfl other
  | _ => rfl

/-- Taking the picture leaves it as it is. -/
theorem pixels_take (viewing : Viewing) :
    (viewing.after .takeFrame).machine.screen.pixels = viewing.machine.screen.pixels := rfl

/-- The host keeps the picture if it waits, and otherwise what it kept before. -/
theorem held_take (viewing : Viewing) :
    (viewing.after .takeFrame).held =
      if viewing.machine.screen.dirty then viewing.machine.screen.pixels else viewing.held := by
  show (if viewing.machine.screen.dirty then some viewing.machine.screen.pixels else none).getD
    viewing.held = _
  cases viewing.machine.screen.dirty with
  | false => rfl
  | true => rfl

/-- Where the picture and the host's copy are at a moment. -/
structure Tracked (viewing : Viewing) (history : List Operation) (now : Nat) : Prop where
  /-- A blanked picture is blank and does not wait. -/
  blanked : viewing.Blanked history now →
    (viewing.reached history now).machine.screen = Screen.blank
  /-- Any other picture that does not wait is the one that the host keeps. -/
  current : ¬viewing.Blanked history now →
    (viewing.reached history now).machine.screen.dirty = false →
      (viewing.reached history now).Current

/-- At the beginning nothing was blanked, and the host keeps the blank picture of the machine. -/
theorem tracked_zero {machine : Machine} (fresh : machine.screen = Screen.blank) :
    (start machine).Tracked history 0 where
  blanked _ := fresh
  current _ _ := (congrArg Screen.pixels fresh).symm

/-- Taking the picture keeps track of it. -/
theorem Tracked.take (tracked : viewing.Tracked history now)
    (takes : Happens history .takeFrame now) : viewing.Tracked history (now + 1) := by
  have same := @blanked_succ_of_still viewing _ _ _ takes trivial not_drawn_nil
  constructor
  · rw [same, reached_succ takes]
    intro blanked
    have blank := tracked.blanked blanked
    show (viewing.reached history now).machine.screen.take.2 = Screen.blank
    rw [blank]
    rfl
  · rw [same, reached_succ takes]
    intro seen _
    rw [Current, held_take, pixels_take]
    cases waits : (viewing.reached history now).machine.screen.dirty with
    | false => exact tracked.current seen waits
    | true => rfl

/-- A reset or a loading blanks the picture. -/
theorem tracked_restart (happens : Happens history operation now)
    (restarts : ¬operation.KeepsProgram) : viewing.Tracked history (now + 1) := by
  have blanked : viewing.Blanked history (now + 1) :=
    (blanked_succ happens).2 ⟨not_drawn_of_restart _ restarts, .inl restarts⟩
  refine ⟨fun _ => ?_, fun seen => absurd blanked seen⟩
  rw [reached_succ happens]
  exact screen_of_restart _ restarts

/-- An operation that goes on with the program keeps track of the picture: it marks it if it draws,
and leaves it if not. -/
theorem Tracked.proceed (tracked : viewing.Tracked history now)
    (happens : Happens history operation now) (keeps : operation.KeepsProgram)
    (leaves : operation ≠ .takeFrame) : viewing.Tracked history (now + 1) := by
  have redrawn := (viewing.reached history now).machine.redrawn_perform keeps leaves
  by_cases drawn :
      Drawn ((viewing.reached history now).machine.perform operation).1.executed?.toList
  · have waits := redrawn.dirty.2 (.inr drawn)
    constructor
    · intro blanked
      exact absurd drawn ((blanked_succ happens).1 blanked).1
    · intro _ clean
      rw [reached_succ happens] at clean
      exact absurd waits (ne_true_of_eq_false clean)
  · have same := redrawn.eq_of_still drawn
    have screen : (viewing.reached history (now + 1)).machine.screen =
        (viewing.reached history now).machine.screen := by
      rw [reached_succ happens]
      exact same
    have held : (viewing.reached history (now + 1)).held = (viewing.reached history now).held := by
      rw [reached_succ happens, held_after _ leaves]
    constructor
    · rw [blanked_succ_of_still happens keeps drawn, screen]
      exact tracked.blanked
    · rw [blanked_succ_of_still happens keeps drawn, Current, screen, held]
      exact tracked.current

/-- The picture can be tracked through every history. -/
theorem tracked {machine : Machine} (fresh : machine.screen = Screen.blank)
    (within : now ≤ history.length) : (start machine).Tracked history now := by
  refine holds_at_moments (fun now => (start machine).Tracked history now) (tracked_zero fresh) ?_
    within
  intro now operation happens before
  by_cases keeps : operation.KeepsProgram
  · by_cases takes : operation = .takeFrame
    · rw [takes] at happens
      exact before.take happens
    · exact before.proceed happens keeps takes
  · exact tracked_restart happens keeps

/-- **A blanked screen goes unannounced.** From a machine with a blank picture, through histories of
any operations: when the host has taken the picture, its copy is the machine's picture exactly
unless the machine was reset or loaded, nothing was drawn since and the host kept a picture that is
not blank. After a reset or a loading, until something is drawn, the host is given no picture and
bringing a panel up to date publishes none. -/
theorem current_iff_not_overlooked {machine : Machine} (fresh : machine.screen = Screen.blank)
    (takes : Happens history .takeFrame now) :
    let viewing := start machine
    ((viewing.reached history (now + 1)).Current ↔ ¬viewing.Overlooked history now) ∧
      (viewing.Blanked history now →
        (viewing.reached history now).machine.takeFrame.1 = none ∧
          ∀ panel : Panel,
            (panel.sync (viewing.reached history now).machine).1.frame = panel.frame) := by
  intro viewing
  have within : now < history.length := (List.getElem?_eq_some_iff.1 takes).1
  have here : viewing.Tracked history now := tracked fresh (Nat.le_of_lt within)
  constructor
  · rw [reached_succ takes, Current, held_take, pixels_take, Overlooked, not_and_not_right]
    constructor
    · intro current blanked
      rw [here.blanked blanked] at current
      exact current
    · intro seen
      cases waits : (viewing.reached history now).machine.screen.dirty with
      | true => rfl
      | false =>
        by_cases blanked : viewing.Blanked history now
        · rw [here.blanked blanked]
          exact seen blanked
        · exact here.current blanked waits
  · intro blanked
    have blank := here.blanked blanked
    refine ⟨?_, fun panel => ?_⟩
    · show (viewing.reached history now).machine.screen.take.1 = none
      rw [blank]
      rfl
    · rw [Panel.frame_sync, blank]
      rfl

/-- A program draws the digit zero, the host takes the picture, resets the machine and looks again. -/
def wiped : List Operation := [.load [0xD0, 0x05], .step, .takeFrame, .reset, .takeFrame]

/-- After the reset the host still keeps the zero, which lights the pixel at the top left. -/
theorem held_wiped : ((start Machine.initial).reached wiped 4).held ≠ Screen.blankPixels := by
  intro same
  have lit : ((start Machine.initial).reached wiped 4).held.get ⟨0, by decide⟩ = 1 := by
    decide +kernel
  have off : Screen.blankPixels.get ⟨0, by decide⟩ = 0 := by decide +kernel
  rw [same, off] at lit
  exact absurd lit (by decide)

/-- The host is current when it has taken the zero, and not any more when it looks again after the
reset. -/
theorem current_iff_not_overlooked_wiped :
    Machine.initial.screen = Screen.blank ∧
      Happens wiped .takeFrame 2 ∧ ((start Machine.initial).reached wiped 3).Current ∧
      Happens wiped .takeFrame 4 ∧ (start Machine.initial).Blanked wiped 4 ∧
      ¬((start Machine.initial).reached wiped 5).Current := by
  have resets : Happens wiped .reset 3 := rfl
  have blanked : (start Machine.initial).Blanked wiped 4 :=
    (blanked_succ resets).2 ⟨not_drawn_nil, .inl id⟩
  have untaken : ((start Machine.initial).reached wiped 2).held = Screen.blankPixels := rfl
  have first := @current_iff_not_overlooked wiped 2 Machine.initial rfl rfl
  have second := @current_iff_not_overlooked wiped 4 Machine.initial rfl rfl
  refine ⟨rfl, rfl, first.1.2 fun overlooked => overlooked.2 untaken, rfl, blanked, ?_⟩
  exact fun current => second.1.1 current ⟨blanked, held_wiped⟩

/-- A host that takes the picture does not always have the machine's picture then: after a reset it
is given nothing and keeps what it had, while the machine's picture is blank. -/
theorem not_always_current :
    ¬∀ (history : List Operation) (now : Nat), Happens history .takeFrame now →
      ((start Machine.initial).reached history (now + 1)).Current := by
  intro always
  have takes : Happens wiped .takeFrame 4 := rfl
  have blank : ((start Machine.initial).reached wiped 4).machine.screen = Screen.blank := rfl
  have current := always wiped 4 takes
  rw [reached_succ takes, Current, held_take, pixels_take, blank] at current
  exact held_wiped current

end Viewing

end Chip8
