import Chip8.Arithmetic
import Chip8.Machine

/-!
# Executing one instruction

An instruction has an effect on the machine, an outcome for the host and notes that report
it. Operands are read before the flag is written, and the flag before the result, so an
instruction whose result goes to VF leaves the result there. Execution then moves on by one
instruction, except after a jump, a call, a wait or a fault.

The one sum that can leave sixteen bits is the target of a jump with offset; `execute?`
refuses it, and `execute` takes it modulo 2¹⁶.
-/
namespace Chip8

/-- What the host learns from a step. -/
inductive Outcome where
  /-- An instruction was executed. -/
  | executed (ins : Instruction)
  /-- A key is awaited. -/
  | awaitingKey
  /-- The machine has stopped for good. -/
  | faulted (fault : Fault)
deriving DecidableEq, Repr

/-- An outcome, the machine that it leaves and the notes that report it. -/
structure Turn where
  /-- What the host learns. -/
  outcome : Outcome
  /-- The machine afterwards. -/
  machine : Machine
  /-- What happened, in order. -/
  notes : List Diagnostic

namespace Registers

/-- The flag is written first and the result second. -/
def setFlagged (v : Registers) (x : UInt8) (result : Flagged) : Registers :=
  (v.setFlag result.flag).set x result.value

/-- Registers 0 to `x` take the bytes of memory from an address on; register numbers beyond
fifteen count from zero again, so later bytes overwrite earlier ones. -/
def loadFrom (v : Registers) (memory : Memory) (address : UInt16) (x : UInt8) : Registers :=
  (List.range (x.toNat + 1)).foldl
    (fun v k => v.set (UInt8.ofNat k) (memory.get (address + UInt16.ofNat k))) v

end Registers

namespace Memory

/-- The bytes of memory from an address on take registers 0 to `x`; register numbers beyond
fifteen count from zero again. -/
def storeFrom (memory : Memory) (v : Registers) (address : UInt16) (x : UInt8) : Memory :=
  memory.write address ((List.range (x.toNat + 1)).map fun k => v.get (UInt8.ofNat k))

end Memory

namespace Machine

/-- The value of a register. -/
def value (machine : Machine) (x : UInt8) : UInt8 := machine.registers.get x

/-- The byte that a shift works on. -/
def shiftOperand (machine : Machine) (x y : UInt8) : UInt8 :=
  match machine.shift with
  | .vx => machine.value x
  | .vy => machine.value y

/-- A register takes a value. -/
def assign (machine : Machine) (x value : UInt8) : Machine :=
  { machine with registers := machine.registers.set x value }

/-- A register takes a result and VF its flag, the flag first. -/
def assignFlagged (machine : Machine) (x : UInt8) (result : Flagged) : Machine :=
  { machine with registers := machine.registers.setFlagged x result }

/-- A key ends the wait of a register: the register takes its number and execution moves on. -/
def acceptKey (machine : Machine) (register key : UInt8) : Machine :=
  { (machine.assign register key).next with status := .running }

/-- A register takes a random byte masked by a constant, and the source moves on. -/
def drawRandom (machine : Machine) (x mask : UInt8) : Machine :=
  { machine.assign x (mask &&& machine.random.byte) with random := machine.random.next }

/-- A sprite of the given height is drawn from the index on; the flag tells a collision. -/
def drawSprite (machine : Machine) (x y height : UInt8) : Machine :=
  let sprite := machine.readIndexed height.toNat
  let (collided, screen) := machine.screen.paint (machine.value x) (machine.value y) sprite
  { machine with screen, registers := machine.registers.setFlag collided }

/-- A register is added to the index; the flag tells whether the sum passed address 0xFFF. -/
def advanceIndex (machine : Machine) (x : UInt8) : Machine :=
  let value := machine.value x
  { machine with
    registers := machine.registers.setFlag (0xFFF < machine.index.toNat + value.toNat)
    index := machine.index + value.toUInt16 }

/-- What an instruction changes, the move to the next instruction included. -/
def effect (machine : Machine) : Instruction → Machine
  | .clear => { machine with screen := machine.screen.clear }.next
  | .ret => { machine with pc := machine.stack.top, stack := machine.stack.pop }.next
  | .jump target => { machine with pc := target }
  | .call target => { machine with pc := target, stack := machine.stack.push machine.pc }
  | .skipIfByte x value => (machine.skipIf (machine.value x == value)).next
  | .skipUnlessByte x value => (machine.skipIf (machine.value x != value)).next
  | .skipIfSame x y => (machine.skipIf (machine.value x == machine.value y)).next
  | .skipUnlessSame x y => (machine.skipIf (machine.value x != machine.value y)).next
  | .setByte x value => (machine.assign x value).next
  | .addByte x value => (machine.assign x (machine.value x + value)).next
  | .copy x y => (machine.assign x (machine.value y)).next
  | .or x y => (machine.assign x (machine.value x ||| machine.value y)).next
  | .and x y => (machine.assign x (machine.value x &&& machine.value y)).next
  | .xor x y => (machine.assign x (machine.value x ^^^ machine.value y)).next
  | .add x y =>
    (machine.assignFlagged x (Arithmetic.sum (machine.value x) (machine.value y))).next
  | .subtract x y =>
    (machine.assignFlagged x (Arithmetic.difference (machine.value x) (machine.value y))).next
  | .shiftRight x y =>
    (machine.assignFlagged x (Arithmetic.halve (machine.shiftOperand x y))).next
  | .subtractFrom x y =>
    (machine.assignFlagged x (Arithmetic.difference (machine.value y) (machine.value x))).next
  | .shiftLeft x y =>
    (machine.assignFlagged x (Arithmetic.double (machine.shiftOperand x y))).next
  | .setIndex target => { machine with index := target }.next
  | .jumpOffset base => { machine with pc := base + (machine.value 0).toUInt16 }
  | .random x mask => (machine.drawRandom x mask).next
  | .draw x y height => (machine.drawSprite x y height).next
  | .skipIfKey x => (machine.skipIf (machine.keys.held (machine.value x))).next
  | .skipUnlessKey x => (machine.skipIf (!machine.keys.held (machine.value x))).next
  | .readDelay x => (machine.assign x machine.timers.delay.count).next
  | .awaitKey x =>
    match machine.keys.first? with
    | some key => machine.acceptKey x key
    | none => { machine with status := .awaitingKey x }
  | .setDelay x =>
    { machine with timers := { machine.timers with delay := ⟨machine.value x⟩ } }.next
  | .setSound x =>
    { machine with timers := { machine.timers with sound := ⟨machine.value x⟩ } }.next
  | .addIndex x => (machine.advanceIndex x).next
  | .pointGlyph x =>
    { machine with
      index := UInt16.ofNat (Font.start + (machine.value x).toNat * Font.glyphBytes) }.next
  | .storeDecimal x =>
    { machine with
      memory := machine.memory.write machine.index
        (Arithmetic.decimalDigits (machine.value x)) }.next
  | .storeRegisters x =>
    { machine with
      memory := machine.memory.storeFrom machine.registers machine.index x
      index := machine.index + (x.toUInt16 + 1) }.next
  | .loadRegisters x =>
    { machine with
      registers := machine.registers.loadFrom machine.memory machine.index x
      index := machine.index + (x.toUInt16 + 1) }.next
  | .unimplemented word => { machine with status := .faulted ⟨word, machine.pc⟩ }

/-- What an instruction tells the host. -/
def outcome (machine : Machine) : Instruction → Outcome
  | .awaitKey x =>
    match machine.keys.first? with
    | some _ => .executed (.awaitKey x)
    | none => .awaitingKey
  | .unimplemented word => .faulted ⟨word, machine.pc⟩
  | ins => .executed ins

/-- What is reported of an instruction besides its beginning and its end. -/
def details (machine : Machine) : Instruction → List Diagnostic
  | .ret => machine.stack.popNotes ++ [.returning machine.stack.top]
  | .call _ => machine.stack.pushNotes
  | .draw x y height =>
    let sprite := machine.readIndexed height.toNat
    .painting (machine.value x) (machine.value y) sprite
      :: Sprite.notes (machine.value x) (machine.value y) sprite
  | .awaitKey x =>
    match machine.keys.first? with
    | some key => [.keyAccepted key x]
    | none => [.awaitingKey x]
  | .unimplemented word => [.faulted ⟨word, machine.pc⟩]
  | _ => []

end Machine

namespace Instruction

/-- An instruction that moves on to the next one reports the registers that it leaves. -/
def reportsRegisters : Instruction → Bool
  | .jump _ | .call _ | .jumpOffset _ | .awaitKey _ | .unimplemented _ => false
  | _ => true

end Instruction

namespace Machine

/-- The registers and the index, reported after an instruction. -/
def closing (machine : Machine) (ins : Instruction) : List Diagnostic :=
  if ins.reportsRegisters then [.registers machine.registers machine.index] else []

/-- An instruction is executed, whatever the status of the machine. -/
def execute (machine : Machine) (ins : Instruction) : Turn :=
  let outcome := machine.outcome ins
  let opening := .processing machine.pc ins :: machine.details ins
  let after := machine.effect ins
  ⟨outcome, after, opening ++ after.closing ins⟩

/-- The target of a jump with offset can pass the last sixteen-bit address. -/
def Overflows (machine : Machine) : Instruction → Prop
  | .jumpOffset base => 0xFFFF < base.toNat + (machine.value 0).toNat
  | _ => False

/-- Passing the last address is a comparison. -/
instance (machine : Machine) : DecidablePred machine.Overflows
  | .jumpOffset base =>
    inferInstanceAs (Decidable (0xFFFF < base.toNat + (machine.value 0).toNat))
  | .clear | .ret | .jump _ | .call _ | .skipIfByte _ _ | .skipUnlessByte _ _
  | .skipIfSame _ _ | .skipUnlessSame _ _ | .setByte _ _ | .addByte _ _ | .copy _ _
  | .or _ _ | .and _ _ | .xor _ _ | .add _ _ | .subtract _ _ | .shiftRight _ _
  | .subtractFrom _ _ | .shiftLeft _ _ | .setIndex _ | .random _ _ | .draw _ _ _
  | .skipIfKey _ | .skipUnlessKey _ | .readDelay _ | .awaitKey _ | .setDelay _ | .setSound _
  | .addIndex _ | .pointGlyph _ | .storeDecimal _ | .storeRegisters _ | .loadRegisters _
  | .unimplemented _ => .isFalse id

/-- An instruction is executed unless its jump target passes the last address. -/
def execute? (machine : Machine) (ins : Instruction) : Option Turn :=
  if machine.Overflows ins then none else some (machine.execute ins)

end Machine

end Chip8
