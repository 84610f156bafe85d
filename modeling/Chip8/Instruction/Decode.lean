import Chip8.Instruction
import Chip8.Word.Cursor

/-!
# Decoding

Every word decodes: a word that matches no pattern is kept whole as `unimplemented`. The two
families 5XY and 9XY have a single member each, and their last digit is not looked at.
`decode` selects by the fields of the word. `read?` reads the word from left to right with a
cursor, whose reads can refuse; it is stated to show that no refusal is ever met.
-/
namespace Chip8.Instruction

/-- The last digit selects an operation on two registers. -/
def ofArithmetic? (x y operation : UInt8) : Option Instruction :=
  match operation.toNat with
  | 0x0 => some (.copy x y)
  | 0x1 => some (.or x y)
  | 0x2 => some (.and x y)
  | 0x3 => some (.xor x y)
  | 0x4 => some (.add x y)
  | 0x5 => some (.subtract x y)
  | 0x6 => some (.shiftRight x y)
  | 0x7 => some (.subtractFrom x y)
  | 0xE => some (.shiftLeft x y)
  | _ => none

/-- The last byte selects a test of the keypad. -/
def ofKeypad? (x operation : UInt8) : Option Instruction :=
  match operation.toNat with
  | 0x9E => some (.skipIfKey x)
  | 0xA1 => some (.skipUnlessKey x)
  | _ => none

/-- The last byte selects an operation on the timers, the keypad, the index or memory. -/
def ofDevice? (x operation : UInt8) : Option Instruction :=
  match operation.toNat with
  | 0x07 => some (.readDelay x)
  | 0x0A => some (.awaitKey x)
  | 0x15 => some (.setDelay x)
  | 0x18 => some (.setSound x)
  | 0x1E => some (.addIndex x)
  | 0x29 => some (.pointGlyph x)
  | 0x33 => some (.storeDecimal x)
  | 0x55 => some (.storeRegisters x)
  | 0x65 => some (.loadRegisters x)
  | _ => none

/-- The two system words clear the screen and return from a call. -/
def ofSystem? (word : UInt16) : Option Instruction :=
  if word = 0x00E0 then some .clear else if word = 0x00EE then some .ret else none

/-- The instruction that a word asks for. -/
def decode (word : UInt16) : Instruction :=
  let x := Word.x word
  let y := Word.y word
  match Word.family word with
  | 0x0 => (ofSystem? word).getD (.unimplemented word)
  | 0x1 => .jump (Word.address word)
  | 0x2 => .call (Word.address word)
  | 0x3 => .skipIfByte x (Word.byte word)
  | 0x4 => .skipUnlessByte x (Word.byte word)
  | 0x5 => .skipIfSame x y
  | 0x6 => .setByte x (Word.byte word)
  | 0x7 => .addByte x (Word.byte word)
  | 0x8 => (ofArithmetic? x y (Word.nibble word)).getD (.unimplemented word)
  | 0x9 => .skipUnlessSame x y
  | 0xA => .setIndex (Word.address word)
  | 0xB => .jumpOffset (Word.address word)
  | 0xC => .random x (Word.byte word)
  | 0xD => .draw x y (Word.nibble word)
  | 0xE => (ofKeypad? x (Word.byte word)).getD (.unimplemented word)
  | _ => (ofDevice? x (Word.byte word)).getD (.unimplemented word)

/-- The reads that follow the family digit, each family with its own operands. -/
def operands (word : UInt16) (family : UInt8) : Reader Instruction :=
  match family.toNat with
  | 0x0 => return (ofSystem? word).getD (.unimplemented word)
  | 0x1 => return .jump (← Cursor.address)
  | 0x2 => return .call (← Cursor.address)
  | 0x3 => return .skipIfByte (← Cursor.register) (← Cursor.byte)
  | 0x4 => return .skipUnlessByte (← Cursor.register) (← Cursor.byte)
  | 0x5 => return .skipIfSame (← Cursor.register) (← Cursor.register)
  | 0x6 => return .setByte (← Cursor.register) (← Cursor.byte)
  | 0x7 => return .addByte (← Cursor.register) (← Cursor.byte)
  | 0x8 => do
    let x ← Cursor.register
    let y ← Cursor.register
    return (ofArithmetic? x y (← Cursor.nibble)).getD (.unimplemented word)
  | 0x9 => return .skipUnlessSame (← Cursor.register) (← Cursor.register)
  | 0xA => return .setIndex (← Cursor.address)
  | 0xB => return .jumpOffset (← Cursor.address)
  | 0xC => return .random (← Cursor.register) (← Cursor.byte)
  | 0xD => return .draw (← Cursor.register) (← Cursor.register) (← Cursor.nibble)
  | 0xE => do
    let x ← Cursor.register
    return (ofKeypad? x (← Cursor.byte)).getD (.unimplemented word)
  | _ => do
    let x ← Cursor.register
    return (ofDevice? x (← Cursor.byte)).getD (.unimplemented word)

/-- The instruction read from a word digit by digit. -/
def read? (word : UInt16) : Option Instruction :=
  (do operands word (← Cursor.family)).run' (Cursor.start word)

/-- No read passes the fourth digit, and reading digit by digit agrees with the fields. -/
theorem read?_eq_decode (word : UInt16) : read? word = some (decode word) := by
  have selected : (UInt8.ofNat (Word.family word)).toNat = Word.family word := by
    have := Word.family_lt word
    rw [UInt8.toNat_ofNat']
    omega
  simp only [read?, StateT.run', bind, StateT.bind, Option.bind, Cursor.family_start, operands,
    selected, decode]
  split <;> simp [*, StateT.bind, bind, Cursor.pure_eq, Functor.map, Cursor.register_second,
    Cursor.register_third, Cursor.nibble_fourth, Cursor.byte_third, Cursor.address_second]

end Chip8.Instruction
