import Chip8.Session

/-!
# What a host asks of a session

Requests are data here, so that what a host does with a session is a list. A new machine draws
from a random source that the system picks, so loading a program names that source. During a run
the host may go on using the panel and may cancel at any time: a run therefore names the looks at
the clock that it takes, each with what the host has done by then. Looking at the panel without
taking the picture changes nothing and is no request.
-/
namespace Chip8

/-- One thing that a host asks of a session. -/
inductive Request where
  /-- A program given as bytes is loaded into a machine with a random source. -/
  | load (program : List UInt8) (random : Generator)
  /-- A program given as a file is loaded, if the file can be read. -/
  | loadFile (path : String) (contents : Except String (List UInt8)) (random : Generator)
  /-- The machine runs from a moment on, through looks at the clock. -/
  | run (moment : Int) (looks : List Look)
  /-- The host gives new button records. -/
  | updateButtons (buttons : List Button)
  /-- The host sets the keys of the panel. -/
  | setKeys (keys : Keypad)
  /-- The host takes the picture from the panel. -/
  | takeFrame
  /-- The host asks runs to end. -/
  | cancel
  /-- The host withdraws that. -/
  | uncancel

namespace Session

/-- A machine that was just made draws from the random source that the system gave it. -/
def seeded (session : Session) (random : Generator) : Session :=
  { session with machine := session.machine.map fun machine => machine.withRandom random }

/-- The machine runs until a fault or until it is found cancelled, beside a host that keeps using
the panel. A session that is already cancelled takes no look, and without a machine nothing
runs. -/
def attend (session : Session) (moment : Int) (looks : List Look) : Option Failure × Session :=
  match session with
  | ⟨_, _, _, none⟩ => (some .noProgram, session)
  | ⟨settings, panel, cancelled, some machine⟩ =>
    let ending := Run.attended settings moment (if cancelled then [] else looks) machine panel
    (ending.fault.map .unimplemented,
      ⟨settings, ending.panel, cancelled || ending.fault.isNone, some ending.machine⟩)

/-- A run whose host only waits is an attended run in which nothing happens at any look. -/
theorem run_eq_attend (session : Session) (moment : Int) (clock : List Int) :
    session.run moment clock =
      session.attend moment (clock.map (Look.quiet session.panel.keys)) := by
  obtain ⟨settings, panel, cancelled, machine⟩ := session
  cases machine with
  | none => rfl
  | some machine =>
    cases cancelled with
    | false => rfl
    | true => rfl

/-- Why a request failed, if it did, and the session afterwards. -/
def perform (session : Session) : Request → Option Failure × Session
  | .load program random =>
    let response := session.load program
    (response.failure, response.session.seeded random)
  | .loadFile path contents random =>
    let response := session.loadFile path contents
    match contents with
    | .ok _ => (response.failure, response.session.seeded random)
    | .error _ => (response.failure, response.session)
  | .run moment looks => session.attend moment looks
  | .updateButtons buttons => (none, session.updateButtons buttons)
  | .setKeys keys => (none, { session with panel := session.panel.setKeys keys })
  | .takeFrame => (none, { session with panel := session.panel.takeFrame.2 })
  | .cancel => (none, session.cancel)
  | .uncancel => (none, session.uncancel)

/-- The session after a list of requests. -/
def performAll (session : Session) (requests : List Request) : Session :=
  requests.foldl (fun session request => (session.perform request).2) session

end Session

end Chip8
