import Chip8.Machine.Step
import Chip8.Proofs.Patterns

/-!
# The table of instructions

What each instruction prescribes, row by row, in numbers: registers hold numbers below 256,
addresses count modulo 65536 and cells of memory modulo 4096, and a row names every component
that it changes, so that whatever it does not name stays as it is. Nothing here decodes or
executes: `Prescribed` relates a running machine to the outcome and the machine that the row of
its next word asks for.
-/
namespace Chip8.Table

/-- The number in a register. -/
def v (machine : Machine) (register : UInt8) : Nat := (machine.registers.get register).toNat

/-- The byte at a distance past the index, as a number. -/
def byteAt (machine : Machine) (distance : Nat) : Nat :=
  (machine.memory.cells[(machine.index.toNat + distance) % 4096]).toNat

/-- The word made of the bytes at the program counter and behind it, the first one high. -/
def word (machine : Machine) : UInt16 :=
  UInt16.ofNat ((machine.memory.cells[machine.pc.toNat % 4096]).toNat * 256 +
    (machine.memory.cells[(machine.pc.toNat + 1) % 4096]).toNat)

/-- Execution goes on a distance further. -/
def advance (machine : Machine) (distance : Nat) : Machine :=
  { machine with pc := UInt16.ofNat ((machine.pc.toNat + distance) % 65536) }

/-- Execution goes on two words further if a condition holds, and one word further if not. -/
def skip (machine : Machine) (condition : Prop) [Decidable condition] : Machine :=
  advance machine (if condition then 4 else 2)

/-- A register takes a number. -/
def put (machine : Machine) (x : UInt8) (value : Nat) : Machine :=
  { machine with
    registers := ⟨Vector.ofFn fun k =>
      if k.val = x.toNat then UInt8.ofNat value else machine.registers.cells.get k⟩ }

/-- A register takes a number and VF tells whether a condition holds, unless VF is the register
that took the number. -/
def putFlagged (machine : Machine) (x : UInt8) (value : Nat) (condition : Prop)
    [Decidable condition] : Machine :=
  { machine with
    registers := ⟨Vector.ofFn fun k =>
      if k.val = x.toNat then UInt8.ofNat value
      else if k.val = 15 then (if condition then 1 else 0)
      else machine.registers.cells.get k⟩ }

/-- VF tells whether a condition holds. -/
def putFlag (machine : Machine) (condition : Prop) [Decidable condition] : Machine :=
  put machine 15 (if condition then 1 else 0)

/-- The index takes an address. -/
def point (machine : Machine) (address : Nat) : Machine :=
  { machine with index := UInt16.ofNat (address % 65536) }

/-- The first cells from the index on take numbers, modulo the size of memory. -/
def deposit (machine : Machine) (count : Nat) (value : Nat → Nat) : Machine :=
  { machine with
    memory := ⟨Vector.ofFn fun cell =>
      let distance := (cell.val + 4096 - machine.index.toNat % 4096) % 4096
      if distance < count then UInt8.ofNat (value distance) else machine.memory.cells.get cell⟩ }

/-- A decimal digit of a number below a thousand, counted from the hundreds. -/
def digit : Nat → Nat → Nat
  | 0, number => number / 100 % 10
  | 1, number => number / 10 % 10
  | _, number => number % 10

/-- The first registers take the bytes from the index on. -/
def collect (machine : Machine) (count : Nat) : Machine :=
  { machine with
    registers := ⟨Vector.ofFn fun k =>
      if k.val < count then UInt8.ofNat (byteAt machine k) else machine.registers.cells.get k⟩ }

/-- The byte that a shift works on: VX, or VY if the host chose so. -/
def shifted (machine : Machine) (x y : UInt8) : Nat :=
  match machine.shift with
  | .vx => v machine x
  | .vy => v machine y

/-- A cell of the screen is lit by the sprite of a height at (VX, VY): some set bit of one of
its rows falls on the cell, modulo the size of the screen. -/
def Lit (machine : Machine) (x y height : UInt8) (cell : Fin 2048) : Prop :=
  ∃ row < height.toNat, ∃ column < 8,
    (byteAt machine row).testBit (7 - column) = true ∧
      (v machine x + column + (v machine y + row) * 64) % 2048 = cell.val

/-- Being lit is decided by looking at the bits of the rows. -/
instance (machine : Machine) (x y height : UInt8) (cell : Fin 2048) :
    Decidable (Lit machine x y height cell) :=
  inferInstanceAs (Decidable (∃ row < height.toNat, ∃ column < 8, _ ∧ _))

/-- The lit cells are turned over, and the picture waits to be taken. -/
def paint (machine : Machine) (x y height : UInt8) : Machine :=
  { machine with
    screen := ⟨Vector.ofFn fun cell =>
      if Lit machine x y height cell then machine.screen.pixels.get cell ^^^ 1
      else machine.screen.pixels.get cell, true⟩ }

/-- Some cell that the sprite lights is on. -/
def Collides (machine : Machine) (x y height : UInt8) : Prop :=
  ∃ cell : Fin 2048, Lit machine x y height cell ∧ machine.screen.pixels.get cell = 1

/-- Colliding is decided by looking at the cells. -/
instance (machine : Machine) (x y height : UInt8) : Decidable (Collides machine x y height) :=
  inferInstanceAs (Decidable (∃ _ : Fin 2048, _ ∧ _))

open Instruction (Written)

/-- What the row of an instruction leaves of a running machine, apart from an instruction that
waits for a key in vain. -/
inductive Row (machine : Machine) : Instruction → Machine → Prop
  /-- 00E0: every pixel is off, and the picture waits to be taken. -/
  | clear :
    Row machine .clear (advance { machine with screen := ⟨Vector.replicate 2048 0, true⟩ } 2)
  /-- 00EE: the address before the stack pointer is taken, and execution goes on behind it. -/
  | ret :
    Row machine .ret
      (advance
        { machine with
          pc := machine.stack.slots.get (machine.stack.pointer - 1)
          stack := { machine.stack with pointer := machine.stack.pointer - 1 } } 2)
  /-- 1NNN: execution goes on at NNN. -/
  | jump (target : UInt16) : Row machine (.jump target) { machine with pc := target }
  /-- 2NNN: the program counter fills the slot at the stack pointer, and execution goes on at
  NNN. -/
  | call (target : UInt16) :
    Row machine (.call target)
      { machine with
        pc := target
        stack := ⟨Vector.ofFn fun k =>
          if k = machine.stack.pointer then machine.pc else machine.stack.slots.get k,
          machine.stack.pointer + 1⟩ }
  /-- 3XNN: the next word is skipped if VX is NN. -/
  | skipIfByte (x value : UInt8) :
    Row machine (.skipIfByte x value) (skip machine (v machine x = value.toNat))
  /-- 4XNN: the next word is skipped if VX is not NN. -/
  | skipUnlessByte (x value : UInt8) :
    Row machine (.skipUnlessByte x value) (skip machine (v machine x ≠ value.toNat))
  /-- 5XY0: the next word is skipped if VX is VY. -/
  | skipIfSame (x y : UInt8) :
    Row machine (.skipIfSame x y) (skip machine (v machine x = v machine y))
  /-- 6XNN: VX is NN. -/
  | setByte (x value : UInt8) :
    Row machine (.setByte x value) (advance (put machine x value.toNat) 2)
  /-- 7XNN: VX is VX plus NN, modulo 256. -/
  | addByte (x value : UInt8) :
    Row machine (.addByte x value)
      (advance (put machine x ((v machine x + value.toNat) % 256)) 2)
  /-- 8XY0: VX is VY. -/
  | copy (x y : UInt8) : Row machine (.copy x y) (advance (put machine x (v machine y)) 2)
  /-- 8XY1: VX is VX or VY. -/
  | or (x y : UInt8) :
    Row machine (.or x y) (advance (put machine x (v machine x ||| v machine y)) 2)
  /-- 8XY2: VX is VX and VY. -/
  | and (x y : UInt8) :
    Row machine (.and x y) (advance (put machine x (v machine x &&& v machine y)) 2)
  /-- 8XY3: VX is VX exclusive-or VY. -/
  | xor (x y : UInt8) :
    Row machine (.xor x y) (advance (put machine x (v machine x ^^^ v machine y)) 2)
  /-- 8XY4: VX is VX plus VY, modulo 256, and VF tells whether the sum is above 255. -/
  | add (x y : UInt8) :
    Row machine (.add x y)
      (advance (putFlagged machine x ((v machine x + v machine y) % 256)
        (255 < v machine x + v machine y)) 2)
  /-- 8XY5: VX is VX less VY, modulo 256, and VF tells whether VY is not above VX. -/
  | subtract (x y : UInt8) :
    Row machine (.subtract x y)
      (advance (putFlagged machine x ((v machine x + 256 - v machine y) % 256)
        (¬v machine x < v machine y)) 2)
  /-- 8XY6: VX is the shifted byte halved, and VF tells whether that byte is odd. -/
  | shiftRight (x y : UInt8) :
    Row machine (.shiftRight x y)
      (advance (putFlagged machine x (shifted machine x y / 2)
        (shifted machine x y % 2 = 1)) 2)
  /-- 8XY7: VX is VY less VX, modulo 256, and VF tells whether VX is not above VY. -/
  | subtractFrom (x y : UInt8) :
    Row machine (.subtractFrom x y)
      (advance (putFlagged machine x ((v machine y + 256 - v machine x) % 256)
        (¬v machine y < v machine x)) 2)
  /-- 8XYE: VX is the shifted byte doubled, modulo 256, and VF tells whether that byte is 128 or
  more. -/
  | shiftLeft (x y : UInt8) :
    Row machine (.shiftLeft x y)
      (advance (putFlagged machine x (shifted machine x y * 2 % 256)
        (128 ≤ shifted machine x y)) 2)
  /-- 9XY0: the next word is skipped if VX is not VY. -/
  | skipUnlessSame (x y : UInt8) :
    Row machine (.skipUnlessSame x y) (skip machine (v machine x ≠ v machine y))
  /-- ANNN: the index is NNN. -/
  | setIndex (target : UInt16) :
    Row machine (.setIndex target) (advance { machine with index := target } 2)
  /-- BNNN: execution goes on at NNN plus V0. -/
  | jumpOffset (base : UInt16) :
    Row machine (.jumpOffset base)
      { machine with pc := UInt16.ofNat (base.toNat + v machine 0) }
  /-- CXNN: VX is the next random byte and NN, and that byte is used up. -/
  | random (x mask : UInt8) :
    Row machine (.random x mask)
      (advance (put
        { machine with
          random := ⟨machine.random.bytes, machine.random.drawn + 1⟩ } x
        ((machine.random.bytes machine.random.drawn).toNat &&& mask.toNat)) 2)
  /-- DXYN: the sprite of N rows at the index is drawn at (VX, VY), and VF tells whether a lit
  cell was on. -/
  | draw (x y height : UInt8) :
    Row machine (.draw x y height)
      (advance (putFlag (paint machine x y height) (Collides machine x y height)) 2)
  /-- EX9E: the next word is skipped if the key numbered VX modulo 16 is held. -/
  | skipIfKey (x : UInt8) :
    Row machine (.skipIfKey x) (skip machine (machine.keys.keys[v machine x % 16] = true))
  /-- EXA1: the next word is skipped if the key numbered VX modulo 16 is not held. -/
  | skipUnlessKey (x : UInt8) :
    Row machine (.skipUnlessKey x) (skip machine (machine.keys.keys[v machine x % 16] = false))
  /-- FX07: VX is the delay timer. -/
  | readDelay (x : UInt8) :
    Row machine (.readDelay x) (advance (put machine x machine.timers.delay.count.toNat) 2)
  /-- FX0A with a key held: VX is the number of the lowest. -/
  | awaitKey (x : UInt8) (key : Fin 16) (held : machine.keys.keys.get key = true)
    (lowest : ∀ lower < key, machine.keys.keys.get lower = false) :
    Row machine (.awaitKey x) (advance (put machine x key.val) 2)
  /-- FX15: the delay timer is VX. -/
  | setDelay (x : UInt8) :
    Row machine (.setDelay x)
      (advance
        { machine with
          timers := { machine.timers with delay := ⟨UInt8.ofNat (v machine x)⟩ } } 2)
  /-- FX18: the sound timer is VX. -/
  | setSound (x : UInt8) :
    Row machine (.setSound x)
      (advance
        { machine with
          timers := { machine.timers with sound := ⟨UInt8.ofNat (v machine x)⟩ } } 2)
  /-- FX1E: the index is the index plus VX, modulo 65536, and VF tells whether the sum is above
  0xFFF. -/
  | addIndex (x : UInt8) :
    Row machine (.addIndex x)
      (advance (putFlag (point machine (machine.index.toNat + v machine x))
        (0xFFF < machine.index.toNat + v machine x)) 2)
  /-- FX29: the index is five times VX. -/
  | pointGlyph (x : UInt8) :
    Row machine (.pointGlyph x) (advance (point machine (v machine x * 5)) 2)
  /-- FX33: the hundreds, the tens and the ones of VX are stored from the index on. -/
  | storeDecimal (x : UInt8) :
    Row machine (.storeDecimal x)
      (advance (deposit machine 3 fun k => digit k (v machine x)) 2)
  /-- FX55: V0 to VX are stored from the index on, which moves behind them. -/
  | storeRegisters (x : UInt8) :
    Row machine (.storeRegisters x)
      (advance (point (deposit machine (x.toNat + 1) fun k => v machine (UInt8.ofNat k))
        (machine.index.toNat + (x.toNat + 1))) 2)
  /-- FX65: V0 to VX are loaded from the index on, which moves behind them. -/
  | loadRegisters (x : UInt8) :
    Row machine (.loadRegisters x)
      (advance (point (collect machine (x.toNat + 1))
        (machine.index.toNat + (x.toNat + 1))) 2)

/-- The outcome of a running machine's next word, and the machine that it leaves. -/
inductive Prescribed (machine : Machine) : Outcome → Machine → Prop
  /-- A word that a pattern writes is executed as its row says. -/
  | executed {ins : Instruction} {after : Machine} (written : Written (word machine) ins)
    (row : Row machine ins after) : Prescribed machine (.executed ins) after
  /-- FX0A with no key held: the wait for a key begins, and nothing else changes. -/
  | waiting {x : UInt8} (written : Written (word machine) (.awaitKey x))
    (idle : ∀ key : Fin 16, machine.keys.keys.get key = false) :
    Prescribed machine .awaitingKey { machine with status := .awaitingKey x }
  /-- A word that no pattern writes stops the machine where it is. -/
  | faulted (unwritten : ∀ ins, ¬Written (word machine) ins) :
    Prescribed machine (.faulted ⟨word machine, machine.pc⟩)
      { machine with status := .faulted ⟨word machine, machine.pc⟩ }

end Chip8.Table
