import Chip8.Controls
import Chip8.Machine

/-!
# The panel

What a host and a running machine exchange: the keys and controls that the host writes, and
the picture and the timers that the machine publishes. The host never touches the machine
itself while it runs; both sides only ever look at the panel.
-/
namespace Chip8

/-- The surface between a host and a machine. -/
structure Panel where
  /-- The keys that the machine will latch. -/
  keys : Keypad
  /-- The controls from which the host sets the keys. -/
  controls : Controls
  /-- The picture last published and whether the host has yet to take it. -/
  frame : Screen
  /-- The timers last published. -/
  timers : Timers
deriving DecidableEq

namespace Panel

/-- No key held, the default buttons, a blank picture that nobody waits for. -/
def initial : Panel := ⟨Keypad.released, Controls.initial, Screen.blank, Timers.zero⟩

/-- The host sets the keys directly. -/
def setKeys (panel : Panel) (keys : Keypad) : Panel := { panel with keys }

/-- The host gives new button records, which then decide the keys. -/
def updateButtons (panel : Panel) (buttons : List Button) : Panel :=
  let controls := (panel.controls.update buttons).apply
  { panel with controls, keys := controls.keys }

/-- The host takes the picture if it changed since it last did. -/
def takeFrame (panel : Panel) : Option Pixels × Panel :=
  let (taken, frame) := panel.frame.take
  (taken, { panel with frame })

/-- A picture is published and waits for the host. -/
def publish (panel : Panel) (pixels : Pixels) : Panel :=
  { panel with frame := ⟨pixels, true⟩ }

/-- A new session starts with a blank picture and timers at zero; keys and controls stay. -/
def reset (panel : Panel) : Panel :=
  { panel.publish Screen.blankPixels with timers := Timers.zero }

/-- The machine's picture is taken and published if it waits, and its timers are published. -/
def sync (panel : Panel) (machine : Machine) : Panel × Machine :=
  let (frame, machine) := machine.takeFrame
  let shown := match frame with
    | some pixels => panel.publish pixels
    | none => panel
  ({ shown with timers := machine.timers }, machine)

end Panel

end Chip8
