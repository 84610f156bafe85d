import Chip8.Exchange

/-!
# Every check on the way

The machine computes modulo the width of its numbers and names cells by types that cannot leave
their bounds. Here the same work is done on whole numbers with every check that it is subject to:
a sum or a product has to fit its width, a difference must not fall below zero, a shift has to be
shorter than the width, a cell has to exist, a slice has to lie within its row, and a read of digits
must not pass the fourth. Whatever fails a check is refused, and so is all work that needs it. Sums
that wrap by intention are not checked, and neither are divisions and remainders, whose divisors are
constants other than zero.
-/
namespace Chip8.Checked

/-- A sum that does not fit below the size is refused. -/
def sum (size a b : Nat) : Option Nat := if a + b < size then some (a + b) else none

/-- A product that does not fit below the size is refused. -/
def product (size a b : Nat) : Option Nat := if a * b < size then some (a * b) else none

/-- A difference below zero is refused. -/
def difference (a b : Nat) : Option Nat := if b ≤ a then some (a - b) else none

/-- A number is shifted to the left within a width, unless the distance reaches the width. -/
def shiftLeft (width value places : Nat) : Option Nat :=
  if places < width then some ((value <<< places) % (1 <<< width)) else none

/-- A number of a width is shifted to the right, unless the distance reaches the width. -/
def shiftRight (width value places : Nat) : Option Nat :=
  if places < width then some (value >>> places) else none

/-- The cell at a position, unless the position is outside the row. -/
def cell {α : Type} {size : Nat} (cells : Vector α size) (position : Nat) : Option α :=
  cells[position]?

/-- The cell at a position takes a value, unless the position is outside the row. -/
def store {α : Type} {size : Nat} (cells : Vector α size) (position : Nat) (value : α) :
    Option (Vector α size) :=
  if inside : position < size then some (cells.set position value inside) else none

/-- The number of addresses of the host, whose counters and positions are that wide. -/
def wide : Nat := UInt64.size

/-- The mask that keeps the low `count` digits. -/
def mask (count : Nat) : Option Nat :=
  if 4 ≤ count then some 0xFFFF
  else do difference (← shiftLeft 16 1 (← product 0x100 count 4)) 1

/-- The run of `count` digits from digit `start`; both numbers and all that is computed from them
are bytes. -/
def digits (word : UInt16) (start count : Nat) : Option UInt16 := do
  let behind ← difference (← difference 4 count) (← difference start 1)
  let places ← product 0x100 behind 4
  let kept ← mask count
  let shifted ← shiftRight 16 word.toNat places
  return UInt16.ofNat (shifted &&& kept)

/-- A read takes the next `count` digits, unless that passes the fourth digit. -/
def take (count : Nat) : Reader UInt16 := fun cursor => do
  let behind ← sum 0x100 cursor.position count
  if behind ≤ 5 then
    let found ← digits cursor.word cursor.position count
    return (found, { cursor with position := behind })
  else none

/-- The value of a register. -/
def value (v : Registers) (x : UInt8) : Option UInt8 := cell v.cells (x &&& 0xF).toNat

/-- A register takes a value. -/
def assign (v : Registers) (x value : UInt8) : Option Registers :=
  return ⟨← store v.cells (x &&& 0xF).toNat value⟩

/-- VF takes a flag. -/
def setFlag (v : Registers) (flag : Bool) : Option Registers :=
  assign v Registers.flagRegister (if flag then 1 else 0)

/-- VF takes the flag of a result, and then a register takes the result. -/
def assignFlagged (v : Registers) (x : UInt8) (result : Flagged) : Option Registers := do
  assign (← setFlag v result.flag) x result.value

/-- A byte is halved. -/
def halve (a : UInt8) : Option Flagged := do
  return ⟨UInt8.ofNat (← shiftRight 8 a.toNat 1), a &&& 1 == 1⟩

/-- A byte is doubled. -/
def double (a : UInt8) : Option Flagged := do
  let top ← shiftRight 8 a.toNat 7
  return ⟨UInt8.ofNat (← shiftLeft 8 a.toNat 1), top % 2 == 1⟩

/-- The byte at an address. -/
def byte (memory : Memory) (address : UInt16) : Option UInt8 :=
  cell memory.cells (address &&& 0xFFF).toNat

/-- The cell of an address takes a byte. -/
def write (memory : Memory) (address : UInt16) (byte : UInt8) : Option Memory :=
  return ⟨← store memory.cells (address &&& 0xFFF).toNat byte⟩

/-- So many bytes from an address on. -/
def read (memory : Memory) (address : UInt16) (count : Nat) : Option (List UInt8) :=
  (List.range count).mapM fun k => byte memory (address + UInt16.ofNat k)

/-- So many cells from an address on take bytes, each of which is looked up in turn. -/
def fill (memory : Memory) (address : UInt16) (bytes : Nat → Option UInt8) (count : Nat) :
    Option Memory :=
  (List.range count).foldlM
    (fun memory k => do write memory (address + UInt16.ofNat k) (← bytes k)) memory

/-- Registers 0 to `x` take the bytes from an address on. -/
def loadFrom (v : Registers) (memory : Memory) (address : UInt16) (x : UInt8) :
    Option Registers :=
  (List.range (x.toNat + 1)).foldlM
    (fun v k => do assign v (UInt8.ofNat k) (← byte memory (address + UInt16.ofNat k))) v

/-- The slice of memory from one address up to another takes as many bytes. -/
def copy (memory : Memory) (start stop : Nat) (bytes : List UInt8) : Option Memory :=
  if start ≤ stop ∧ stop ≤ Memory.size ∧ bytes.length = stop - start then
    some (memory.write (UInt16.ofNat start) bytes)
  else none

/-- The slots of the stack form a ring. -/
def slot (position : Nat) : Fin 16 := ⟨position % 16, Nat.mod_lt _ (by decide)⟩

/-- A push fills the slot pointed at and moves to the next. -/
def push (stack : Stack) (address : UInt16) : Option Stack := do
  let slots ← store stack.slots stack.pointer.val address
  let above ← sum wide stack.pointer.val 1
  return ⟨slots, slot above⟩

/-- A pop moves to the slot before and takes its address. -/
def pop (stack : Stack) : Option (UInt16 × Stack) := do
  let below ← difference (← sum wide stack.pointer.val Stack.depth) 1
  let address ← cell stack.slots (slot below).val
  return (address, { stack with pointer := slot below })

/-- One bit of a row of a sprite is looked at; if it is set, its pixel is turned over. -/
def paintBit (x y bits : UInt8) (row : Nat) (drawing : Screen.Drawing) (column : Nat) :
    Option Screen.Drawing := do
  let bit ← shiftRight 8 bits.toNat (← difference 7 column)
  if bit % 2 = 0 then some drawing
  else do
    let across ← sum wide x.toNat column
    let down ← sum wide y.toNat row
    let number ← sum wide across (← product wide down Screen.width)
    let old ← cell drawing.pixels (number % 2048)
    let pixels ← store drawing.pixels (number % 2048) (old ^^^ 1)
    return ⟨pixels, drawing.collided || old == 1⟩

/-- One row of a sprite is drawn from left to right. -/
def paintRow (x y bits : UInt8) (row : Nat) (drawing : Screen.Drawing) : Option Screen.Drawing :=
  (List.range 8).foldlM (paintBit x y bits row) drawing

/-- A sprite is drawn row by row with its corner at a position. -/
def paint (screen : Screen) (x y : UInt8) (sprite : List UInt8) : Option (Bool × Screen) := do
  let drawing ← sprite.zipIdx.foldlM
    (fun drawing (bits, row) => paintRow x y bits row drawing) ⟨screen.pixels, false⟩
  return (drawing.collided, ⟨drawing.pixels, true⟩)

/-- Whether a key is held. -/
def held (keypad : Keypad) (key : UInt8) : Option Bool := cell keypad.keys (key &&& 0xF).toNat

/-- One key is pressed or released. -/
def setKey (keypad : Keypad) (key : UInt8) (pressed : Bool) : Option Keypad :=
  return ⟨← store keypad.keys (key &&& 0xF).toNat pressed⟩

/-- A record sets the key one below its number, if that is a key. -/
def apply (keypad : Keypad) (button : Button) : Option Keypad :=
  if 1 ≤ button.number ∧ button.number ≤ 16 then do
    setKey keypad (UInt8.ofNat (← difference button.number.toNat 1)) button.active
  else some keypad

/-- The host gives new button records, which are applied in order. -/
def updateButtons (panel : Panel) (buttons : List Button) : Option Panel := do
  let keys ← buttons.foldlM apply panel.controls.keys
  return { panel with controls := ⟨buttons, keys⟩, keys }

/-- An active timer is lowered by a tick. -/
def lower (timer : Timer) : Option Timer :=
  if timer.count = 0 then some timer
  else return ⟨UInt8.ofNat (← difference timer.count.toNat 1)⟩

/-- Both timers tick. -/
def tick (timers : Timers) : Option Timers := return ⟨← lower timers.delay, ← lower timers.sound⟩

/-- The byte that a shift works on. -/
def shiftOperand (machine : Machine) (x y : UInt8) : Option UInt8 :=
  match machine.shift with
  | .vx => value machine.registers x
  | .vy => value machine.registers y

/-- A key ends the wait of a register. -/
def acceptKey (machine : Machine) (register key : UInt8) : Option Machine := do
  let registers ← assign machine.registers register key
  return { { machine with registers }.next with status := .running }

/-- A register takes a result of the values of two registers. -/
def combine (machine : Machine) (x y : UInt8) (operation : UInt8 → UInt8 → UInt8) :
    Option Machine := do
  let result := operation (← value machine.registers x) (← value machine.registers y)
  return { machine with registers := ← assign machine.registers x result }.next

/-- A register takes a result that has a flag, and VF the flag. -/
def combineFlagged (machine : Machine) (x : UInt8) (result : Flagged) : Option Machine :=
  return { machine with registers := ← assignFlagged machine.registers x result }.next

/-- What an instruction changes. -/
def effect (machine : Machine) : Instruction → Option Machine
  | .clear => some { machine with screen := machine.screen.clear }.next
  | .ret => do
    let (target, stack) ← pop machine.stack
    return { machine with pc := target, stack }.next
  | .jump target => some { machine with pc := target }
  | .call target => return { machine with pc := target, stack := ← push machine.stack machine.pc }
  | .skipIfByte x constant =>
    return (machine.skipIf ((← value machine.registers x) == constant)).next
  | .skipUnlessByte x constant =>
    return (machine.skipIf ((← value machine.registers x) != constant)).next
  | .skipIfSame x y =>
    return (machine.skipIf
      ((← value machine.registers x) == (← value machine.registers y))).next
  | .skipUnlessSame x y =>
    return (machine.skipIf
      ((← value machine.registers x) != (← value machine.registers y))).next
  | .setByte x constant =>
    return { machine with registers := ← assign machine.registers x constant }.next
  | .addByte x constant => do
    let before ← value machine.registers x
    return { machine with registers := ← assign machine.registers x (before + constant) }.next
  | .copy x y => combine machine x y fun _ b => b
  | .or x y => combine machine x y fun a b => a ||| b
  | .and x y => combine machine x y fun a b => a &&& b
  | .xor x y => combine machine x y fun a b => a ^^^ b
  | .add x y => do
    combineFlagged machine x
      (Arithmetic.sum (← value machine.registers x) (← value machine.registers y))
  | .subtract x y => do
    combineFlagged machine x
      (Arithmetic.difference (← value machine.registers x) (← value machine.registers y))
  | .shiftRight x y => do combineFlagged machine x (← halve (← shiftOperand machine x y))
  | .subtractFrom x y => do
    combineFlagged machine x
      (Arithmetic.difference (← value machine.registers y) (← value machine.registers x))
  | .shiftLeft x y => do combineFlagged machine x (← double (← shiftOperand machine x y))
  | .setIndex target => some { machine with index := target }.next
  | .jumpOffset base => do
    let target ← sum 0x10000 base.toNat (← value machine.registers 0).toNat
    return { machine with pc := UInt16.ofNat target }
  | .random x mask => do
    let registers ← assign machine.registers x (mask &&& machine.random.byte)
    return { machine with registers, random := machine.random.next }.next
  | .draw x y height => do
    let column ← value machine.registers x
    let row ← value machine.registers y
    let sprite ← read machine.memory machine.index height.toNat
    let (collided, screen) ← paint machine.screen column row sprite
    return { machine with screen, registers := ← setFlag machine.registers collided }.next
  | .skipIfKey x =>
    return (machine.skipIf (← held machine.keys (← value machine.registers x))).next
  | .skipUnlessKey x =>
    return (machine.skipIf (!(← held machine.keys (← value machine.registers x)))).next
  | .readDelay x =>
    return { machine with
      registers := ← assign machine.registers x machine.timers.delay.count }.next
  | .awaitKey x =>
    match machine.keys.first? with
    | some key => acceptKey machine x key
    | none => some { machine with status := .awaitingKey x }
  | .setDelay x =>
    return { machine with
      timers := { machine.timers with delay := ⟨← value machine.registers x⟩ } }.next
  | .setSound x =>
    return { machine with
      timers := { machine.timers with sound := ⟨← value machine.registers x⟩ } }.next
  | .addIndex x => do
    let distance ← value machine.registers x
    let passed ← sum 0x100000000 machine.index.toNat distance.toNat
    return { machine with
      registers := ← setFlag machine.registers (0xFFF < passed)
      index := machine.index + distance.toUInt16 }.next
  | .pointGlyph x => do
    let glyph ← product 0x10000 (← value machine.registers x).toNat Font.glyphBytes
    return { machine with index := UInt16.ofNat (← sum 0x10000 Font.start glyph) }.next
  | .storeDecimal x => do
    let digits := Arithmetic.decimalDigits (← value machine.registers x)
    return { machine with
      memory := ← fill machine.memory machine.index (fun k => digits[k]?) digits.length }.next
  | .storeRegisters x => do
    let memory ← fill machine.memory machine.index
      (fun k => value machine.registers (UInt8.ofNat k)) (x.toNat + 1)
    let count ← sum 0x10000 x.toNat 1
    return { machine with memory, index := machine.index + UInt16.ofNat count }.next
  | .loadRegisters x => do
    let registers ← loadFrom machine.registers machine.memory machine.index x
    let count ← sum 0x10000 x.toNat 1
    return { machine with registers, index := machine.index + UInt16.ofNat count }.next
  | .unimplemented word => some { machine with status := .faulted ⟨word, machine.pc⟩ }

/-- An instruction is executed; its outcome and its notes compute nothing further. -/
def execute (machine : Machine) (ins : Instruction) : Option Turn :=
  return { machine.execute ins with machine := ← effect machine ins }

/-- The lowest key held ends the wait of a register. -/
def resume (machine : Machine) (register : UInt8) : Option Turn :=
  match machine.keys.first? with
  | some key => return { machine.resume register with machine := ← acceptKey machine register key }
  | none => some (machine.resume register)

/-- The word at the program counter. -/
def fetch (machine : Machine) : Option UInt16 :=
  return Word.ofBytes (← byte machine.memory machine.pc) (← byte machine.memory (machine.pc + 1))

/-- One step of the machine. The word is read with a cursor, whose reads are `take`. -/
def step (machine : Machine) : Option Turn :=
  match machine.status with
  | .faulted fault => some ⟨.faulted fault, machine, []⟩
  | .awaitingKey register => resume machine register
  | .running => do execute machine (← Instruction.read? (← fetch machine))

/-- A reset puts the font in a blank memory. -/
def reset (machine : Machine) : Option Machine := do
  let stop ← sum wide Font.start Font.bytes.length
  return { machine.reset with memory := ← copy Memory.blank Font.start stop Font.bytes }

/-- Loading resets the machine and places the program unless it is refused. -/
def load (machine : Machine) (program : List UInt8) : Option (Reply × Machine) := do
  let machine ← reset machine
  match Memory.refusal? program with
  | some failure => return (.loaded (some failure), machine)
  | none =>
    let stop ← sum wide Memory.programStart program.length
    let memory ← copy machine.memory Memory.programStart stop program
    return (.loaded none, { machine with memory, pc := UInt16.ofNat Memory.programStart })

/-- An operation is performed on a machine. -/
def perform (machine : Machine) : Operation → Option (Reply × Machine)
  | .step => do
    let turn ← step machine
    return (.outcome turn.outcome, turn.machine)
  | .execute ins => do
    let turn ← execute machine ins
    return (.outcome turn.outcome, turn.machine)
  | .tick => return (.done, { machine with timers := ← tick machine.timers })
  | .setKey key pressed => return (.done, machine.latch (← setKey machine.keys key pressed))
  | .load program => load machine program
  | .reset => return (.done, ← reset machine)
  | .latch keys => some (.done, machine.latch keys)
  | .releaseKeys => some (.done, machine.releaseKeys)
  | .chooseShift shift => some (.done, machine.withShift shift)
  | .supplyRandom random => some (.done, machine.withRandom random)
  | .takeFrame => some (.frame machine.takeFrame.1, machine.takeFrame.2)

/-- One thing happens between a machine and a host. -/
def after (exchange : Exchange) : Event → Option Exchange
  | .operate operation => return { exchange with
      machine := (← perform exchange.machine operation).2 }
  | .updateButtons buttons => return { exchange with
      panel := ← updateButtons exchange.panel buttons }
  | .sync => some (exchange.after .sync)
  | .take => some (exchange.after .take)
  | .setKeys keys => some (exchange.after (.setKeys keys))
  | .reset => some (exchange.after .reset)

/-- What happens between a machine and a host, one thing after the other. -/
def run (exchange : Exchange) (events : List Event) : Option Exchange := events.foldlM after exchange

end Chip8.Checked
