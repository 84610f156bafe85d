import Chip8.Settings
import Chip8.Generator
import Chip8.Keypad
import Chip8.Memory
import Chip8.Screen
import Chip8.Stack
import Chip8.Word

/-!
# The machine

The whole state of the virtual machine and what a host may do to it between instructions.
Program counter and index have sixteen bits and wrap; memory looks at the low twelve. A reset
returns everything that a program can change to its first state, and leaves the choice of
shift operand and the random source, which belong to the host.
-/
namespace Chip8

/-- Whether the machine can go on. -/
inductive Status where
  /-- The next instruction can be executed. -/
  | running
  /-- A key is awaited, whose number a register will take; the program counter stays at the
  instruction that waits. -/
  | awaitingKey (register : UInt8)
  /-- The machine has stopped for good. -/
  | faulted (fault : Fault)
deriving DecidableEq, Repr

/-- The state of the virtual machine. -/
structure Machine where
  /-- The address of the next instruction. -/
  pc : UInt16
  /-- The address that instructions on memory work from. -/
  index : UInt16
  /-- The registers V0 to VF. -/
  registers : Registers
  /-- The addresses to return to. -/
  stack : Stack
  /-- The delay timer and the sound timer. -/
  timers : Timers
  /-- Whether the machine can go on. -/
  status : Status
  /-- The keys as the host last latched them. -/
  keys : Keypad
  /-- The register that shifts read. -/
  shift : ShiftOperand
  /-- The source of random bytes. -/
  random : Generator
  /-- Font, program and data. -/
  memory : Memory
  /-- The picture drawn. -/
  screen : Screen

namespace Machine

/-- A machine before any program, with the given shift operand and random source. -/
def fresh (shift : ShiftOperand) (random : Generator) : Machine where
  pc := UInt16.ofNat Memory.programStart
  index := 0
  registers := Registers.zero
  stack := Stack.empty
  timers := Timers.zero
  status := .running
  keys := Keypad.released
  shift := shift
  random := random
  memory := Memory.initial
  screen := Screen.blank

/-- A new machine shifts in place and draws zeros. -/
def initial : Machine := fresh .vx Generator.zero

/-- Everything but the shift operand and the random source returns to its first state. -/
def reset (machine : Machine) : Machine := fresh machine.shift machine.random

/-- A program is put in memory and execution points at it; nothing else changes. -/
def place (machine : Machine) (program : List UInt8) : Machine :=
  { machine with
    memory := machine.memory.place program
    pc := UInt16.ofNat Memory.programStart }

/-- What loading a program brings about. -/
structure Loading where
  /-- Why the program was refused, if it was. -/
  refusal : Option Failure
  /-- The machine afterwards. -/
  machine : Machine
  /-- A program that was placed is reported. -/
  notes : List Diagnostic

/-- A program is placed unless it is refused, and then nothing changes. -/
def insert (machine : Machine) (program : List UInt8) : Loading :=
  match Memory.refusal? program with
  | some failure => ⟨some failure, machine, []⟩
  | none => ⟨none, machine.place program, [.programLoaded program.length]⟩

/-- Loading resets the machine first, also when the program is then refused. -/
def load (machine : Machine) (program : List UInt8) : Loading := machine.reset.insert program

/-- Both timers tick. -/
def tick (machine : Machine) : Machine := { machine with timers := machine.timers.tick }

/-- Both timers tick a number of times. -/
def ticks : Nat → Machine → Machine
  | 0, machine => machine
  | count + 1, machine => ticks count machine.tick

/-- The host latches the keys that are held. -/
def latch (machine : Machine) (keys : Keypad) : Machine := { machine with keys }

/-- The host presses or releases one key. -/
def setKey (machine : Machine) (key : UInt8) (pressed : Bool) : Machine :=
  machine.latch (machine.keys.set key pressed)

/-- The host releases every key. -/
def releaseKeys (machine : Machine) : Machine := machine.latch Keypad.released

/-- The host chooses the register that shifts read. -/
def withShift (machine : Machine) (shift : ShiftOperand) : Machine := { machine with shift }

/-- The host supplies a random source. -/
def withRandom (machine : Machine) (random : Generator) : Machine := { machine with random }

/-- The host takes the picture if it waits. -/
def takeFrame (machine : Machine) : Option Pixels × Machine :=
  let (frame, screen) := machine.screen.take
  (frame, { machine with screen })

/-- The word at the program counter, high byte first. -/
def fetch (machine : Machine) : UInt16 :=
  Word.ofBytes (machine.memory.get machine.pc) (machine.memory.get (machine.pc + 1))

/-- The address a distance past the index. -/
def indexed (machine : Machine) (distance : UInt16) : UInt16 := machine.index + distance

/-- The bytes from the index on. -/
def readIndexed (machine : Machine) (count : Nat) : List UInt8 :=
  machine.memory.read machine.index count

/-- Execution moves to the next instruction. -/
def next (machine : Machine) : Machine := { machine with pc := machine.pc + 2 }

/-- Execution passes over the next instruction if a condition holds. -/
def skipIf (machine : Machine) (condition : Bool) : Machine :=
  if condition then machine.next else machine

end Machine

end Chip8
