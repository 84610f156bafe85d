import Chip8.Proofs.Cancelling
import Chip8.Proofs.Occurrences

/-!
# The picture and its mark

The pixels of a machine are off or on, and so are those that the panel shows (`Binary.after`). Only
drawing, a reset and a loading change the machine's picture (`drawn_of_changed`). Drawing marks it,
even if no pixel changes, and the mark is cleared only when the picture is collected, by the panel or
by a host that takes it from the machine itself (`dirty_after`). So the mark says that something was
drawn since the picture was last collected (`dirty_reached`).
-/
namespace Chip8

open Instruction (Drawn not_drawn_nil)

namespace Event

/-- The machine's picture is collected: the panel is brought up to date, or the host takes the
picture from the machine itself. -/
def Collects (event : Event) : Prop := event = .sync ∨ event = .operate .takeFrame

end Event

namespace Exchange

variable {exchange : Exchange} {events : List Event} {event : Event} {now : Nat}

/-- The machine's picture is collected at a moment. -/
def Collects (events : List Event) (moment : Nat) : Prop :=
  ∃ event, Happens events event moment ∧ event.Collects

/-- Every pixel of the machine and of the panel is off or on. -/
structure Binary (exchange : Exchange) : Prop where
  /-- The machine's are. -/
  machine : exchange.machine.screen.Binary
  /-- The panel's are. -/
  panel : exchange.panel.frame.Binary

/-- What is known of the pictures of a machine and its panel, and of the mark on the machine's. -/
structure Pictured (exchange : Exchange) : Prop where
  /-- Every pixel is off or on. -/
  binary : exchange.Binary
  /-- The machine's picture changes only if an instruction that draws is executed, or the machine is
  reset or loaded. -/
  changed : ∀ event,
    (exchange.after event).machine.screen.pixels ≠ exchange.machine.screen.pixels →
      (∃ ins, exchange.executed? event = some ins ∧ ins.Draws) ∨ ¬event.KeepsProgram
  /-- From a clear mark on, and as long as nothing is loaded and nothing reset, the picture is marked
  exactly when something was drawn since it was last collected. -/
  marked : exchange.machine.screen.dirty = false → ∀ run, (∀ event ∈ run, event.KeepsProgram) →
    ∀ now ≤ run.length, (exchange.reached run now).machine.screen.dirty = true ↔
      Since (exchange.Draws run) (Collects run) now

/-- Collecting the picture at a moment is collecting it by the event that happens. -/
theorem collects_iff (happens : Happens events event now) :
    Collects events now ↔ event.Collects := by
  simp only [Collects, happens_inj happens, exists_eq_left']

/-- Every event leaves the pixels off or on. -/
theorem Binary.after (binary : exchange.Binary) (event : Event) : (exchange.after event).Binary where
  machine := by
    cases event with
    | operate operation => exact Machine.binary_perform binary.machine operation
    | _ => exact binary.machine
  panel := by
    cases event with
    | sync =>
      rw [frame_after_sync]
      cases exchange.machine.screen.dirty with
      | false => exact binary.panel
      | true => exact binary.machine
    | reset => exact Screen.binary_of_blank rfl
    | _ => exact binary.panel

/-- The machine's picture is changed by drawing, unless the machine is reset or loaded. -/
theorem drawn_of_changed (keeps : event.KeepsProgram)
    (changed : (exchange.after event).machine.screen.pixels ≠ exchange.machine.screen.pixels) :
    ∃ ins, exchange.executed? event = some ins ∧ ins.Draws := by
  cases done : exchange.executed? event with
  | none => exact absurd (unmoved_after keeps done).pixels changed
  | some ins =>
    refine ⟨ins, rfl, ?_⟩
    by_contra still
    rw [machine_of_executed done, Machine.screen_effect still] at changed
    exact changed rfl

/-- **One event.** Drawing marks the machine's picture, and only collecting the picture clears the
mark. -/
theorem dirty_after (keeps : event.KeepsProgram) :
    (exchange.after event).machine.screen.dirty = true ↔
      ¬event.Collects ∧
        (Drawn (exchange.executed? event).toList ∨ exchange.machine.screen.dirty = true) := by
  -- Of the events that keep the program only a picture taken past the panel and a new panel are not
  -- covered by what is known of delivery.
  by_cases continues : event.Continues
  · have other : event ≠ .operate .takeFrame := by
      rintro rfl
      exact continues.2 rfl
    rw [dirty_machine_after continues, Event.Collects, or_iff_left other]
  · cases event with
    | operate operation =>
      have takes : operation = .takeFrame := by
        by_contra other
        exact continues ⟨keeps, other⟩
      subst takes
      exact iff_of_false nofun fun ⟨uncollected, _⟩ => uncollected (.inr rfl)
    | reset =>
      have uncollected : ¬Event.Collects .reset := by
        rintro (same | same) <;> cases same
      rw [and_iff_right uncollected]
      exact (or_iff_right not_drawn_nil).symm
    | _ => exact absurd trivial continues

/-- **What the mark says.** From a clear mark on, the machine's picture is marked exactly when
something was drawn since it was last collected. -/
theorem dirty_reached (clean : exchange.machine.screen.dirty = false)
    (keeps : ∀ event ∈ events, event.KeepsProgram) (within : now ≤ events.length) :
    (exchange.reached events now).machine.screen.dirty = true ↔
      Since (exchange.Draws events) (Collects events) now := by
  refine holds_at_moments (fun now => (exchange.reached events now).machine.screen.dirty = true ↔
    Since (exchange.Draws events) (Collects events) now) ?_ ?_ within
  · exact iff_of_false (ne_true_of_eq_false clean) not_since_zero
  · intro now event happens marked
    have kept := keeps event (List.mem_of_getElem? happens)
    rw [reached_succ happens, dirty_after kept, since_succ, collects_iff happens,
      draws_iff happens, marked]

/-- **Pixels and their mark.** However a new machine, its panel and a host are used: every pixel of
the machine and of the panel is off or on; the machine's picture changes only when an instruction
draws, or at a reset or a loading; and from any moment at which the mark is clear, until the next
reset or loading, it is set exactly when an instruction that draws was executed since the picture was
last collected, whether or not it changed a pixel. -/
theorem pictured (shift : ShiftOperand) (random : Generator) (events : List Event) :
    (events.foldl after (start (Machine.fresh shift random))).Pictured := by
  have begun : (start (Machine.fresh shift random)).Binary :=
    ⟨Screen.binary_of_blank rfl, Screen.binary_of_blank rfl⟩
  have binary : (events.foldl after (start (Machine.fresh shift random))).Binary :=
    List.foldlRecOn events _ begun fun _ binary event _ => binary.after event
  refine ⟨binary, fun event changed => ?_, fun clean run keeps now within => ?_⟩
  · by_cases keeps : event.KeepsProgram
    · exact .inl (drawn_of_changed keeps changed)
    · exact .inr keeps
  · exact dirty_reached clean keeps within

/-- A sprite without rows changes no pixel and marks the picture all the same. -/
example :
    let drawn := (start Machine.initial).after (.operate (.execute (.draw 0 0 0)))
    drawn.machine.screen = ⟨Screen.blankPixels, true⟩ := rfl

end Exchange

end Chip8
