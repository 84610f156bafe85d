import Chip8.Request
import Chip8.Proofs.Publishing

/-!
# The panel mirrors the machine

Whenever no run is in progress, the panel of a session shows the machine's picture and timers, and
no picture waits on the machine; while there is no machine the panel is as it would be beside one
that has done nothing. Three parts of a session keep this up: loading clears the panel, every look
of a run brings it up to date, and a run that takes no look changes neither side.
-/
namespace Chip8

/-- A panel shows the machine's picture and timers, and no picture waits on the machine. -/
structure Panel.Mirrors (panel : Panel) (machine : Machine) : Prop where
  /-- The panel shows the machine's picture. -/
  pixels : panel.frame.pixels = machine.screen.pixels
  /-- The panel shows the machine's timers. -/
  timers : panel.timers = machine.timers
  /-- The machine's picture has been published. -/
  published : machine.screen.dirty = false

/-- A panel shows a blank picture and timers at zero. -/
structure Panel.Vacant (panel : Panel) : Prop where
  /-- The picture is blank. -/
  pixels : panel.frame.pixels = Screen.blankPixels
  /-- Both timers are at zero. -/
  timers : panel.timers = Timers.zero

namespace Run

variable {run : Run}

/-- A run that takes no look leaves the panel a mirror, and so does every look. -/
theorem mirrors_polls (mirrors : run.panel.Mirrors run.machine) (looks : List Look) :
    (run.polls looks).1.panel.Mirrors (run.polls looks).1.machine := by
  by_cases none : looks = []
  · rw [none]
    exact mirrors
  · have published := run.published_polls none
    obtain ⟨before, last, ends⟩ := run.polls_eq_poll none
    refine ⟨?_, ?_, ?_⟩
    · by_cases drawn : run.machine.screen.dirty = true ∨
          Instruction.Drawn (run.machine.executed (run.operations looks))
      · exact published.shown drawn
      · obtain ⟨shown, picture⟩ := published.kept drawn
        rw [shown, picture, mirrors.pixels]
    · rw [ends]
      exact timers_poll before last
    · rw [ends]
      exact dirty_poll before last

/-- A whole run leaves the panel a mirror. -/
theorem mirrors_attended {machine : Machine} {panel : Panel} (mirrors : panel.Mirrors machine)
    (settings : Settings) (moment : Int) (looks : List Look) :
    (attended settings moment looks machine panel).panel.Mirrors
      (attended settings moment looks machine panel).machine := by
  let run := start settings moment machine panel
  have started : run.panel.Mirrors run.machine :=
    ⟨mirrors.pixels, mirrors.timers, mirrors.published⟩
  exact mirrors_polls started looks

end Run

namespace Session

variable {session : Session}

/-- The panel mirrors the machine, or is vacant if there is none. -/
structure Mirrored (session : Session) : Prop where
  /-- With a machine the panel is its mirror. -/
  loaded : ∀ machine, session.machine = some machine → session.panel.Mirrors machine
  /-- Without a machine the panel is vacant. -/
  vacant : session.machine = none → session.panel.Vacant

/-- A new session is mirrored. -/
theorem mirrored_initial (settings : Settings) : (initial settings).Mirrored :=
  ⟨nofun, fun _ => ⟨rfl, rfl⟩⟩

/-- A session stays mirrored while pictures and timers stay as they are on both sides. -/
theorem Mirrored.of_same {after : Session} (mirrored : session.Mirrored)
    (machine : after.machine = session.machine)
    (pixels : after.panel.frame.pixels = session.panel.frame.pixels)
    (timers : after.panel.timers = session.panel.timers) : after.Mirrored := by
  constructor
  · intro present loaded
    have mirrors := mirrored.loaded present (machine.symm.trans loaded)
    exact ⟨pixels.trans mirrors.pixels, timers.trans mirrors.timers, mirrors.published⟩
  · intro absent
    have vacant := mirrored.vacant (machine.symm.trans absent)
    exact ⟨pixels.trans vacant.pixels, timers.trans vacant.timers⟩

/-- The random source is no part of what the panel shows. -/
theorem Mirrored.seeded (mirrored : session.Mirrored) (random : Generator) :
    (session.seeded random).Mirrored := by
  constructor
  · intro machine loaded
    obtain ⟨before, present, rfl⟩ := Option.map_eq_some_iff.1 loaded
    have mirrors := mirrored.loaded before present
    exact ⟨mirrors.pixels, mirrors.timers, mirrors.published⟩
  · intro absent
    have vacant := mirrored.vacant (Option.map_eq_none_iff.1 absent)
    exact ⟨vacant.pixels, vacant.timers⟩

/-- Loading clears the panel and the request to cancel, and makes a new machine unless the program
is refused. -/
theorem session_load (session : Session) (program : List UInt8) :
    (session.load program).session =
      { session with
        panel := session.panel.reset
        cancelled := false
        machine :=
          if (Machine.initial.load program).refusal.isNone then
            some ((Machine.initial.load program).machine.withShift session.settings.shift)
          else none } := by
  simp only [load]
  cases (Machine.initial.load program).refusal with
  | none => rfl
  | some failure => rfl

/-- Loading leaves a mirrored session, whatever it was before and whether or not the program is
refused. -/
theorem mirrored_load (session : Session) (program : List UInt8) :
    (session.load program).session.Mirrored := by
  rw [session_load]
  constructor
  · intro machine loaded
    obtain ⟨accepted, made⟩ := Option.ite_none_right_eq_some.1 loaded
    obtain ⟨memory, placed⟩ := Machine.initial.machine_load program
    rw [← Option.some.inj made, placed]
    exact ⟨rfl, rfl, rfl⟩
  · exact fun _ => ⟨rfl, rfl⟩

/-- A run leaves a mirrored session if it was mirrored before. -/
theorem Mirrored.attend (mirrored : session.Mirrored) (moment : Int) (looks : List Look) :
    (session.attend moment looks).2.Mirrored := by
  obtain ⟨settings, panel, cancelled, machine⟩ := session
  cases machine with
  | none => exact mirrored
  | some machine =>
    have mirrors : panel.Mirrors machine := mirrored.loaded machine rfl
    refine ⟨?_, nofun⟩
    intro after loaded
    rw [← Option.some.inj loaded]
    exact Run.mirrors_attended mirrors settings moment _

/-- Every request leaves a mirrored session if it was mirrored before. -/
theorem Mirrored.perform (mirrored : session.Mirrored) (request : Request) :
    (session.perform request).2.Mirrored := by
  cases request with
  | load program random => exact (session.mirrored_load program).seeded random
  | loadFile path contents random =>
    cases contents with
    | ok program => exact (session.mirrored_load program).seeded random
    | error cause => exact mirrored
  | run moment looks => exact mirrored.attend moment looks
  | updateButtons | setKeys | takeFrame | cancel | uncancel => exact mirrored.of_same rfl rfl rfl

/-- What every request of a list keeps, the list keeps. -/
theorem performAll_keeps (Kept : Session → Prop) {requests : List Request} (begun : Kept session)
    (each : ∀ session, Kept session → ∀ request ∈ requests,
      Kept (session.perform request).2) : Kept (session.performAll requests) :=
  List.foldlRecOn requests _ begun each

/-- A list of requests leaves a mirrored session if it was mirrored before. -/
theorem Mirrored.performAll (mirrored : session.Mirrored) (requests : List Request) :
    (session.performAll requests).Mirrored :=
  performAll_keeps Mirrored mirrored fun _ kept request _ => kept.perform request

/-- **The panel mirrors the machine.** Whatever a host asks of a new session, in whatever order:
after every request the panel shows the machine's picture and timers and no picture waits on the
machine, or the panel is blank and there is no machine. -/
theorem mirrored_performAll (settings : Settings) (requests : List Request) :
    ((initial settings).performAll requests).Mirrored := by
  have started : (initial settings).Mirrored := mirrored_initial settings
  exact started.performAll requests

end Session

end Chip8
