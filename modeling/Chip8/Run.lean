import Chip8.Machine.Step
import Chip8.Schedule
import Chip8.Panel

/-!
# Running against a clock

A run looks at the clock again and again. Each look makes timer ticks and instructions due;
the ticks come first, the keys of the panel are latched before the first instruction, and the
panel is brought up to date after the last. A run ends at a fault, or when it is found
cancelled; both are explicit here, because a run is given the looks that it takes before it is
cancelled. Meanwhile the host may hold other keys, may take the picture from the panel and may
cancel between two instructions of one look, and a look states all three; `run` is the run of a
host that does none of them.
-/
namespace Chip8

/-- A machine on its way, with the panel it publishes to and its two schedules. -/
structure Run where
  /-- The machine. -/
  machine : Machine
  /-- The panel it reads keys from and publishes to. -/
  panel : Panel
  /-- The schedule of instructions. -/
  cpu : Schedule
  /-- The schedule of timer ticks. -/
  timers : Schedule

/-- How a run ended and what it leaves. -/
structure RunEnd where
  /-- The fault that ended the run, or none if it was cancelled. -/
  fault : Option Fault
  /-- The machine afterwards. -/
  machine : Machine
  /-- The panel afterwards. -/
  panel : Panel

/-- What a run meets when it looks at the clock. -/
structure Look where
  /-- The reading of the clock. -/
  now : Int
  /-- The keys that the host holds by then. -/
  keys : Keypad
  /-- Whether the host has taken the picture since the panel was last brought up to date. -/
  takes : Bool
  /-- The instructions that begin before the run is found cancelled, if it is at this look. -/
  allowed : Option Nat

namespace Look

/-- The clock alone moves on, and nobody cancels. -/
def quiet (keys : Keypad) (now : Int) : Look := ⟨now, keys, false, none⟩

/-- The panel as the host has left it by then. -/
def used (look : Look) (panel : Panel) : Panel :=
  let held := panel.setKeys look.keys
  if look.takes then held.takeFrame.2 else held

/-- Of the instructions due, those that begin. -/
def begun (look : Look) (due : Nat) : Nat :=
  match look.allowed with
  | some count => min count due
  | none => due

end Look

namespace Run

/-- A run applies its choice of shift operand and starts both schedules. -/
def start (settings : Settings) (moment : Int) (machine : Machine) (panel : Panel) : Run where
  machine := machine.withShift settings.shift
  panel := panel
  cpu := Schedule.start settings.cpuPeriod moment settings.catchUp
  timers := Schedule.start settings.timerPeriod moment settings.catchUp

/-- The instructions of a look: when some are due the keys are latched once, before the first
of them, and then those that are not cancelled are executed. -/
def batch (machine : Machine) (look : Look) (due : Nat) : Machine × Option Fault :=
  if due = 0 then (machine, none) else (machine.latch look.keys).steps (look.begun due)

/-- One look at the clock: ticks, instructions, and the panel brought up to date. -/
def poll (run : Run) (look : Look) : Run × Option Fault :=
  let ⟨machine, panel, cpu, timers⟩ := run
  let ticking := timers.due look.now
  let stepping := cpu.due look.now
  let (machine, fault) := batch (machine.ticks ticking.count) look stepping.count
  let (panel, machine) := (look.used panel).sync machine
  (⟨machine, panel, stepping.schedule, ticking.schedule⟩, fault)

/-- Looks are taken one after the other until one of them meets a fault. -/
def polls : Run → List Look → Run × Option Fault
  | run, [] => (run, none)
  | run, look :: later =>
    match run.poll look with
    | (run, none) => polls run later
    | ended => ended

/-- A whole run beside a host that keeps using the panel. The looks are those that find the run
not yet cancelled; a run that is cancelled before it starts has none. -/
def attended (settings : Settings) (moment : Int) (looks : List Look) (machine : Machine)
    (panel : Panel) : RunEnd :=
  let (run, fault) := polls (start settings moment machine panel) looks
  ⟨fault, run.machine, run.panel⟩

/-- A whole run whose host leaves the keys as they are and cancels between two looks, if at
all. -/
def run (settings : Settings) (moment : Int) (readings : List Int) (machine : Machine)
    (panel : Panel) : RunEnd :=
  attended settings moment (readings.map (Look.quiet panel.keys)) machine panel

/-- Readings at equal intervals after a starting moment. -/
def steadyClock (moment : Int) (interval count : Nat) : List Int :=
  (List.range count).map fun (k : Nat) => moment + interval * (k + 1)

end Run

namespace RunEnd

/-- Waiting for a run to end by itself hands back the machine and how the run ended. -/
def join (ending : RunEnd) : Machine × Option Failure :=
  (ending.machine, ending.fault.map .unimplemented)

/-- Stopping a run hands back the machine, unless the run had met a fault: then the machine is
lost and the fault is reported. -/
def stop (ending : RunEnd) : Except Failure Machine :=
  match ending.fault with
  | some fault => .error (.unimplemented fault)
  | none => .ok ending.machine

end RunEnd

end Chip8
