import Chip8.Instruction

/-!
# Encoding

The word that the pattern of an instruction prescribes, with the digits that decoding
ignores written as zero. An instruction is encodable when its operands fit their digits.
-/
namespace Chip8.Instruction

/-- An instruction fits a word when its registers and small constants are digits and its
address has three digits. A word that is no instruction has no pattern to fit. -/
def Encodable : Instruction → Prop
  | .clear | .ret => True
  | .jump a | .call a | .setIndex a | .jumpOffset a => a.toNat < 0x1000
  | .skipIfByte x _ | .skipUnlessByte x _ | .setByte x _ | .addByte x _ | .random x _ =>
    x.toNat < 16
  | .skipIfSame x y | .skipUnlessSame x y | .copy x y | .or x y | .and x y | .xor x y
  | .add x y | .subtract x y | .shiftRight x y | .subtractFrom x y | .shiftLeft x y =>
    x.toNat < 16 ∧ y.toNat < 16
  | .draw x y height => x.toNat < 16 ∧ y.toNat < 16 ∧ height.toNat < 16
  | .skipIfKey x | .skipUnlessKey x | .readDelay x | .awaitKey x | .setDelay x | .setSound x
  | .addIndex x | .pointGlyph x | .storeDecimal x | .storeRegisters x | .loadRegisters x =>
    x.toNat < 16
  | .unimplemented _ => False

/-- A family digit followed by an address. -/
def wordOfAddress (family : Nat) (address : UInt16) : UInt16 :=
  UInt16.ofNat (family * 0x1000 + address.toNat)

/-- A family digit followed by a register and a byte. -/
def wordOfByte (family : Nat) (x value : UInt8) : UInt16 :=
  UInt16.ofNat (family * 0x1000 + x.toNat * 0x100 + value.toNat)

/-- A family digit followed by two registers and a last digit. -/
def wordOfDigits (family : Nat) (x y : UInt8) (last : Nat) : UInt16 :=
  UInt16.ofNat (family * 0x1000 + x.toNat * 0x100 + y.toNat * 0x10 + last)

/-- The word that an instruction is written as. -/
def encode : Instruction → UInt16
  | .clear => 0x00E0
  | .ret => 0x00EE
  | .jump a => wordOfAddress 0x1 a
  | .call a => wordOfAddress 0x2 a
  | .skipIfByte x value => wordOfByte 0x3 x value
  | .skipUnlessByte x value => wordOfByte 0x4 x value
  | .skipIfSame x y => wordOfDigits 0x5 x y 0
  | .skipUnlessSame x y => wordOfDigits 0x9 x y 0
  | .setByte x value => wordOfByte 0x6 x value
  | .addByte x value => wordOfByte 0x7 x value
  | .copy x y => wordOfDigits 0x8 x y 0x0
  | .or x y => wordOfDigits 0x8 x y 0x1
  | .and x y => wordOfDigits 0x8 x y 0x2
  | .xor x y => wordOfDigits 0x8 x y 0x3
  | .add x y => wordOfDigits 0x8 x y 0x4
  | .subtract x y => wordOfDigits 0x8 x y 0x5
  | .shiftRight x y => wordOfDigits 0x8 x y 0x6
  | .subtractFrom x y => wordOfDigits 0x8 x y 0x7
  | .shiftLeft x y => wordOfDigits 0x8 x y 0xE
  | .setIndex a => wordOfAddress 0xA a
  | .jumpOffset a => wordOfAddress 0xB a
  | .random x mask => wordOfByte 0xC x mask
  | .draw x y height => wordOfDigits 0xD x y height.toNat
  | .skipIfKey x => wordOfByte 0xE x 0x9E
  | .skipUnlessKey x => wordOfByte 0xE x 0xA1
  | .readDelay x => wordOfByte 0xF x 0x07
  | .awaitKey x => wordOfByte 0xF x 0x0A
  | .setDelay x => wordOfByte 0xF x 0x15
  | .setSound x => wordOfByte 0xF x 0x18
  | .addIndex x => wordOfByte 0xF x 0x1E
  | .pointGlyph x => wordOfByte 0xF x 0x29
  | .storeDecimal x => wordOfByte 0xF x 0x33
  | .storeRegisters x => wordOfByte 0xF x 0x55
  | .loadRegisters x => wordOfByte 0xF x 0x65
  | .unimplemented word => word

end Chip8.Instruction
