import Chip8.Exchange
import Chip8.Proofs.Moments
import Chip8.Proofs.Publishing

/-!
# Every picture arrives

Between a machine and its host a picture passes two marks: drawing marks the machine's picture,
bringing the panel up to date moves the mark to the panel, and taking the picture clears it there.
The marks say exactly what happened since (`Marked.succ`), and a picture whose mark is clear is the
same on both sides of the mark (`Agreeing.after`). So the host is given a picture exactly when something
was drawn that it has not been shown, the picture is whole, and what the host keeps is the
machine's picture as of the last time the panel was brought up to date.
-/
namespace Chip8

open Instruction (Drawn not_drawn_nil)

namespace Event

/-- The machine goes on without being loaded or reset, and nobody takes its picture past the
panel; nor does the panel start anew. -/
def Continues : Event → Prop
  | .operate operation => operation.KeepsProgram ∧ operation ≠ .takeFrame
  | .sync | .take | .setKeys _ | .updateButtons _ => True
  | .reset => False

end Event

namespace Exchange

variable {exchange : Exchange} {events : List Event} {now : Nat}

/-- An instruction that draws is executed at a moment. -/
def Draws (exchange : Exchange) (events : List Event) (moment : Nat) : Prop :=
  ∃ event ins, Happens events event moment ∧
    (exchange.reached events moment).executed? event = some ins ∧ ins.Draws

/-- Something was drawn before the panel was last brought up to date, and after the last time
that it was before the host last took the picture, if there was such a time. -/
def Unseen (exchange : Exchange) (events : List Event) (now : Nat) : Prop :=
  ∃ drawn synced, exchange.Draws events drawn ∧ drawn < synced ∧
    LastBefore (Happens events .sync) now synced ∧
    ∀ taken seen, LastBefore (Happens events .take) now taken →
      LastBefore (Happens events .sync) taken seen → seen < drawn

/-- The machine's picture as of the last time that the panel was brought up to date, or the blank
picture if it never was. -/
inductive Synced (exchange : Exchange) (events : List Event) (now : Nat) : Pixels → Prop
  /-- The panel was brought up to date. -/
  | last {synced : Nat} (recent : LastBefore (Happens events .sync) now synced) :
    Synced exchange events now (exchange.reached events synced).machine.screen.pixels
  /-- The panel was never brought up to date. -/
  | never (none : ∀ moment < now, ¬Happens events .sync moment) :
    Synced exchange events now Screen.blankPixels

/-- What the host is given when it takes the picture at a moment, and what it keeps. -/
structure Delivered (exchange : Exchange) (events : List Event) (now : Nat) : Prop where
  /-- The host is given a picture exactly when it has not been shown what was drawn. -/
  told : (exchange.reached events now).offered.isSome = true ↔ exchange.Unseen events now
  /-- The picture is the machine's as of the last time that the panel was brought up to date. -/
  given : ∀ pixels, (exchange.reached events now).offered = some pixels →
    exchange.Synced events now pixels
  /-- So is the picture that the host keeps, or it is blank. -/
  kept : exchange.Synced events now (exchange.reached events (now + 1)).held

/-- The next moment is the present and the event that happens. -/
theorem reached_succ {event : Event} (happens : Happens events event now) :
    exchange.reached events (now + 1) = (exchange.reached events now).after event :=
  foldl_take_succ happens exchange

/-- Drawing at a moment is drawing by the event that happens. -/
theorem draws_iff {event : Event} (happens : Happens events event now) :
    exchange.Draws events now ↔
      Drawn ((exchange.reached events now).executed? event).toList := by
  simp only [Draws, Drawn, Option.mem_toList]
  constructor
  · rintro ⟨other, ins, happened, executed, draws⟩
    rw [← (happens_inj happens).1 happened] at executed
    exact ⟨ins, executed, draws⟩
  · rintro ⟨ins, executed, draws⟩
    exact ⟨event, ins, happens, executed, draws⟩

variable {event : Event}

/-- Bringing the panel up to date publishes the machine's picture if it waits. -/
theorem frame_after_sync (exchange : Exchange) :
    (exchange.after .sync).panel.frame =
      if exchange.machine.screen.dirty then ⟨exchange.machine.screen.pixels, true⟩
      else exchange.panel.frame :=
  exchange.panel.frame_sync exchange.machine

/-- Drawing marks the machine's picture, and only bringing the panel up to date clears the
mark. -/
theorem dirty_machine_after (continues : event.Continues) :
    (exchange.after event).machine.screen.dirty = true ↔
      event ≠ .sync ∧
        (Drawn (exchange.executed? event).toList ∨ exchange.machine.screen.dirty = true) := by
  cases event with
  | operate operation =>
    obtain ⟨keeps, leaves⟩ := continues
    have redrawn := exchange.machine.redrawn_perform keeps leaves
    rw [and_iff_right nofun, or_comm]
    exact redrawn.dirty
  | sync => exact iff_of_false nofun fun ⟨other, _⟩ => other rfl
  | take | setKeys | updateButtons =>
    rw [and_iff_right nofun]
    exact (or_iff_right not_drawn_nil).symm
  | reset => exact continues.elim

/-- Bringing the panel up to date marks its picture if the machine's was marked, and only taking
the picture clears the mark. -/
theorem dirty_panel_after (continues : event.Continues) :
    (exchange.after event).panel.frame.dirty = true ↔
      event ≠ .take ∧
        (event = .sync ∧ exchange.machine.screen.dirty = true ∨
          exchange.panel.frame.dirty = true) := by
  cases event with
  | sync =>
    rw [frame_after_sync, and_iff_right nofun, and_iff_right rfl]
    by_cases waits : exchange.machine.screen.dirty = true
    · rw [if_pos waits]
      exact iff_of_true rfl (.inl waits)
    · rw [if_neg waits, or_iff_right waits]
  | take => exact iff_of_false nofun fun ⟨other, _⟩ => other rfl
  | operate | setKeys | updateButtons =>
    rw [and_iff_right nofun]
    exact (or_iff_right fun ⟨same, _⟩ => nomatch same).symm
  | reset => exact continues.elim

/-- The marks tell what happened since. -/
structure Marked (exchange : Exchange) (events : List Event) (now : Nat) : Prop where
  /-- The machine's picture was drawn upon since the panel was brought up to date. -/
  machine : (exchange.reached events now).machine.screen.dirty = true ↔
    Since (exchange.Draws events) (Happens events .sync) now
  /-- A picture that waited was published since the host took one. -/
  panel : (exchange.reached events now).panel.frame.dirty = true ↔
    Since (fun moment => Happens events .sync moment ∧
      Since (exchange.Draws events) (Happens events .sync) moment) (Happens events .take) now

/-- **What the marks tell.** An event changes the marks as it changes what happened since. -/
theorem Marked.succ (marked : exchange.Marked events now) (happens : Happens events event now)
    (continues : event.Continues) : exchange.Marked events (now + 1) := by
  constructor
  · rw [reached_succ happens, dirty_machine_after continues, since_succ, happens_inj happens,
      draws_iff happens, marked.machine]
  · rw [reached_succ happens, dirty_panel_after continues, since_succ, happens_inj happens,
      happens_inj happens, ← marked.machine, marked.panel]

/-- A picture whose mark is clear is the same on both sides: on the machine and the panel, and on
the panel and with the host. -/
structure Agreeing (exchange : Exchange) : Prop where
  /-- The panel shows the machine's picture, unless that waits for the panel. -/
  shown : exchange.machine.screen.dirty = false →
    exchange.panel.frame.pixels = exchange.machine.screen.pixels
  /-- The host keeps the panel's picture, unless that waits for the host. -/
  kept : exchange.panel.frame.dirty = false → exchange.held = exchange.panel.frame.pixels

/-- Bringing the panel up to date shows the machine's picture. -/
theorem Agreeing.sync (agreeing : exchange.Agreeing) :
    (exchange.after .sync).panel.frame.pixels = exchange.machine.screen.pixels := by
  rw [frame_after_sync]
  cases waits : exchange.machine.screen.dirty with
  | false => exact agreeing.shown waits
  | true => rfl

/-- The host that takes the picture keeps the panel's picture. -/
theorem Agreeing.take (agreeing : exchange.Agreeing) :
    (exchange.after .take).held = exchange.panel.frame.pixels := by
  show exchange.offered.getD exchange.held = exchange.panel.frame.pixels
  rw [offered_eq]
  cases waits : exchange.panel.frame.dirty with
  | false => exact agreeing.kept waits
  | true => rfl

/-- Both sides of a clear mark agree after an event if they did before. -/
theorem Agreeing.after (agreeing : exchange.Agreeing) (continues : event.Continues) :
    (exchange.after event).Agreeing := by
  cases event with
  | operate operation =>
    obtain ⟨keeps, leaves⟩ := continues
    have redrawn := exchange.machine.redrawn_perform keeps leaves
    refine ⟨fun clean => ?_, agreeing.kept⟩
    have still := mt redrawn.dirty.2 (ne_true_of_eq_false clean)
    obtain ⟨before, undrawn⟩ := not_or.1 still
    have same := redrawn.pixels undrawn
    exact (agreeing.shown (eq_false_of_ne_true before)).trans same.symm
  | sync =>
    refine ⟨fun _ => agreeing.sync, ?_⟩
    rw [frame_after_sync]
    cases exchange.machine.screen.dirty with
    | false => exact agreeing.kept
    | true => exact nofun
  | take => exact ⟨agreeing.shown, fun _ => agreeing.take⟩
  | setKeys | updateButtons => exact ⟨agreeing.shown, agreeing.kept⟩
  | reset => exact continues.elim

/-- Only bringing it up to date changes the picture on the panel. -/
theorem pixels_panel_after (continues : event.Continues) (other : event ≠ .sync) :
    (exchange.after event).panel.frame.pixels = exchange.panel.frame.pixels := by
  cases event with
  | sync => exact absurd rfl other
  | reset => exact continues.elim
  | _ => rfl

/-- The picture of the last time is the same until the next time. -/
theorem Synced.succ {pixels : Pixels} (synced : exchange.Synced events now pixels)
    (still : ¬Happens events .sync now) : exchange.Synced events (now + 1) pixels := by
  cases synced with
  | last recent => exact .last (lastBefore_succ.2 (.inr ⟨still, recent⟩))
  | never none =>
    refine .never fun moment within happened => ?_
    exact none moment (before_of_still still within happened) happened

/-- Where the pictures are at a moment. -/
structure Tracked (exchange : Exchange) (events : List Event) (now : Nat) : Prop where
  /-- The marks tell what happened since. -/
  marked : exchange.Marked events now
  /-- Both sides of a clear mark agree. -/
  agreeing : (exchange.reached events now).Agreeing
  /-- The panel shows the machine's picture as of the last time that it was brought up to date. -/
  synced : exchange.Synced events now (exchange.reached events now).panel.frame.pixels

/-- At the beginning every mark is clear and every picture blank. -/
theorem tracked_zero {machine : Machine} (fresh : machine.screen = Screen.blank) :
    (start machine).Tracked events 0 where
  marked := by
    constructor
    · show machine.screen.dirty = true ↔ _
      rw [fresh]
      exact iff_of_false nofun not_since_zero
    · exact iff_of_false nofun not_since_zero
  agreeing := ⟨fun _ => (congrArg Screen.pixels fresh).symm, fun _ => rfl⟩
  synced := .never fun moment within => absurd within (Nat.not_lt_zero moment)

/-- An event keeps track of the pictures. -/
theorem Tracked.succ (tracked : exchange.Tracked events now) (happens : Happens events event now)
    (continues : event.Continues) : exchange.Tracked events (now + 1) where
  marked := tracked.marked.succ happens continues
  agreeing := by
    rw [reached_succ happens]
    exact tracked.agreeing.after continues
  synced := by
    rw [reached_succ happens]
    by_cases same : event = .sync
    · subst same
      rw [tracked.agreeing.sync]
      exact .last (lastBefore_succ.2 (.inl ⟨happens, rfl⟩))
    · rw [pixels_panel_after continues same]
      exact tracked.synced.succ fun syncs => same ((happens_inj happens).1 syncs)

/-- The pictures can be tracked through every list of events. -/
theorem tracked {machine : Machine} (fresh : machine.screen = Screen.blank)
    (continues : ∀ event ∈ events, event.Continues) (within : now ≤ events.length) :
    (start machine).Tracked events now := by
  refine holds_at_moments (fun now => (start machine).Tracked events now) (tracked_zero fresh) ?_
    within
  intro now event happens before
  exact before.succ happens (continues event (List.mem_of_getElem? happens))

/-- What was published and not taken is what was drawn and not seen. -/
theorem unseen_iff :
    Since (fun moment => Happens events .sync moment ∧
        Since (exchange.Draws events) (Happens events .sync) moment) (Happens events .take) now ↔
      exchange.Unseen events now := by
  refine since_relayed ?_ ?_
  · rintro moment ⟨event, ins, happens, executed, draws⟩ syncs
    rw [(happens_inj happens).1 syncs] at executed
    cases executed
  · intro moment syncs takes
    cases (happens_inj syncs).1 takes

/-- **Every picture arrives.** From a machine with a blank picture, a panel that is new and a host
that has seen nothing: however operations, bringing the panel up to date and taking the picture
follow each other, the host is given a picture exactly when something was drawn that it has not
been shown, and what it then keeps is the machine's picture as of the last time that the panel was
brought up to date. -/
theorem delivered {machine : Machine} (fresh : machine.screen = Screen.blank)
    (continues : ∀ event ∈ events, event.Continues) (takes : Happens events .take now) :
    (start machine).Delivered events now := by
  have within : now < events.length := (List.getElem?_eq_some_iff.1 takes).1
  have here : (start machine).Tracked events now := tracked fresh continues (Nat.le_of_lt within)
  constructor
  · rw [offered_eq, Option.isSome_ite, here.marked.panel, unseen_iff]
  · intro pixels given
    rw [offered_eq] at given
    obtain ⟨_, shown⟩ := Option.ite_none_right_eq_some.1 given
    rw [← Option.some.inj shown]
    exact here.synced
  · have still : ¬Happens events .sync now := fun syncs => nomatch (happens_inj takes).1 syncs
    rw [reached_succ takes, here.agreeing.take]
    exact here.synced

/-- A sprite is drawn. The host looks for it before the panel is brought up to date, and twice
afterwards. -/
def drawnOnce : List Event :=
  [.operate (.execute (.draw 0 0 5)), .take, .sync, .take, .take]

/-- The host is given the sprite once, when the panel has been brought up to date. -/
theorem delivered_drawnOnce :
    Machine.initial.screen = Screen.blank ∧ (∀ event ∈ drawnOnce, event.Continues) ∧
      Happens drawnOnce .take 3 ∧ (start Machine.initial).Delivered drawnOnce 3 ∧
      [1, 3, 4].map (fun now => ((start Machine.initial).reached drawnOnce now).offered.isSome) =
        [false, true, false] := by
  have continues : ∀ event ∈ drawnOnce, event.Continues := by
    simp [drawnOnce, Event.Continues, Operation.KeepsProgram]
  exact ⟨rfl, continues, rfl, delivered rfl continues rfl, by decide +kernel⟩

end Exchange

end Chip8
