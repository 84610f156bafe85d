import Chip8.Operation

/-!
# A machine, its panel and a host

A machine that runs beside a host meets it at the panel. What happens between them is a list of
events: the host does something to the machine, brings the panel up to date, or uses the panel.
The host keeps the picture that it took last, so what it shows a player at any moment is part of
the exchange. `Exchange.reached` is the exchange after the first events of a list; the number of
events that have happened is the moment.
-/
namespace Chip8

/-- A machine and a host that meet at a panel. -/
structure Exchange where
  /-- The machine. -/
  machine : Machine
  /-- The panel at which they meet. -/
  panel : Panel
  /-- The picture that the host took last. -/
  held : Pixels

/-- One thing that happens between a machine and a host. -/
inductive Event where
  /-- An operation is performed on the machine. -/
  | operate (operation : Operation)
  /-- The panel is brought up to date. -/
  | sync
  /-- The host takes the picture from the panel and keeps it. -/
  | take
  /-- The host sets the keys of the panel. -/
  | setKeys (keys : Keypad)
  /-- The host gives the panel new button records. -/
  | updateButtons (buttons : List Button)
  /-- The panel starts anew. -/
  | reset

namespace Exchange

/-- A new panel before a host that has seen nothing yet. -/
def start (machine : Machine) : Exchange := ⟨machine, Panel.initial, Screen.blankPixels⟩

/-- The picture that the host would be given now. -/
def offered (exchange : Exchange) : Option Pixels := exchange.panel.takeFrame.1

/-- The panel's picture is offered if it waits. -/
theorem offered_eq (exchange : Exchange) :
    exchange.offered =
      if exchange.panel.frame.dirty then some exchange.panel.frame.pixels else none :=
  rfl

/-- The instruction that an event executes, if it executes one. -/
def executed? (exchange : Exchange) : Event → Option Instruction
  | .operate operation => (exchange.machine.perform operation).1.executed?
  | .sync | .take | .setKeys _ | .updateButtons _ | .reset => none

/-- The exchange after an event. -/
def after (exchange : Exchange) : Event → Exchange
  | .operate operation => { exchange with machine := (exchange.machine.perform operation).2 }
  | .sync =>
    let (panel, machine) := exchange.panel.sync exchange.machine
    { exchange with machine, panel }
  | .take =>
    { exchange with
      panel := exchange.panel.takeFrame.2
      held := exchange.offered.getD exchange.held }
  | .setKeys keys => { exchange with panel := exchange.panel.setKeys keys }
  | .updateButtons buttons => { exchange with panel := exchange.panel.updateButtons buttons }
  | .reset => { exchange with panel := exchange.panel.reset }

/-- The exchange at a moment: so many of the events have happened. -/
def reached (exchange : Exchange) (events : List Event) (moment : Nat) : Exchange :=
  (events.take moment).foldl after exchange

end Exchange

end Chip8
