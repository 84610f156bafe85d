import Chip8.About
import Chip8.Run

/-!
# Sessions

A session holds settings, a panel, a request to cancel and at most one machine. Loading a
program starts anew: the panel shows a blank picture and an earlier request to cancel is
forgotten, also when the program is then refused and no machine is left. A file that cannot be
read changes nothing. What a session tells about itself never changes.
-/
namespace Chip8

/-- What a host drives. -/
structure Session where
  /-- How runs are paced. -/
  settings : Settings
  /-- The surface between host and machine. -/
  panel : Panel
  /-- Whether runs are asked to end. -/
  cancelled : Bool
  /-- The machine, once a program is loaded. -/
  machine : Option Machine

/-- What an operation on a session brings about. -/
structure Response where
  /-- Why the operation failed, if it did. -/
  failure : Option Failure
  /-- The session afterwards. -/
  session : Session
  /-- What is reported, in order. -/
  notes : List Diagnostic

namespace Session

/-- What a host can show of a session, whatever it has loaded. -/
def about (_session : Session) : About := About.chip8

/-- The extensions of the program files that a session loads. -/
def extensions (session : Session) : List String := session.about.extensions

/-- A session before any program. -/
def initial (settings : Settings) : Session := ⟨settings, Panel.initial, false, none⟩

/-- A program given as bytes starts the session anew, on a new machine. -/
def load (session : Session) (program : List UInt8) : Response :=
  let cleared := { session with panel := session.panel.reset, cancelled := false }
  let loading := Machine.initial.load program
  match loading.refusal with
  | some failure =>
    ⟨some failure, { cleared with machine := none }, loading.notes ++ [.programRefused failure]⟩
  | none =>
    ⟨none, { cleared with machine := some (loading.machine.withShift session.settings.shift) },
      loading.notes⟩

/-- A program given as a file is loaded when the file could be read. -/
def loadFile (session : Session) (path : String) (contents : Except String (List UInt8)) :
    Response :=
  match contents with
  | .ok program => session.load program
  | .error cause =>
    let failure := .unreadable path cause
    ⟨some failure, session, [.unreadable failure]⟩

/-- The clock readings that a run takes: none if the session is already cancelled. -/
def readings (session : Session) (clock : List Int) : List Int :=
  if session.cancelled then [] else clock

/-- The machine runs until a fault, or until the session is cancelled after the readings of
the clock. Without a machine nothing runs. -/
def run (session : Session) (moment : Int) (clock : List Int) : Option Failure × Session :=
  match session with
  | ⟨_, _, _, none⟩ => (some .noProgram, session)
  | ⟨settings, panel, cancelled, some machine⟩ =>
    let ending := Run.run settings moment (session.readings clock) machine panel
    (ending.fault.map .unimplemented,
      ⟨settings, ending.panel, cancelled || ending.fault.isNone, some ending.machine⟩)

/-- The host gives new button records. -/
def updateButtons (session : Session) (buttons : List Button) : Session :=
  { session with panel := session.panel.updateButtons buttons }

/-- The button records last given. -/
def buttons (session : Session) : List Button := session.panel.controls.buttons

/-- The host asks runs to end. -/
def cancel (session : Session) : Session := { session with cancelled := true }

/-- The host withdraws its request. -/
def uncancel (session : Session) : Session := { session with cancelled := false }

end Session

end Chip8
