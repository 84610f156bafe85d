/-!
# Instructions

The thirty-four instructions of the machine and the word that is none of them. Operands are
bytes and addresses as a host may supply them: decoding produces only registers and small
constants below sixteen and addresses below 4096, but every operation on an instruction
accepts all operands.
-/
namespace Chip8

/-- What one word asks of the machine. -/
inductive Instruction where
  /-- Every pixel is turned off. -/
  | clear
  /-- Execution resumes after the call most recently made. -/
  | ret
  /-- Execution continues at an address. -/
  | jump (target : UInt16)
  /-- Execution continues at an address, to be resumed here. -/
  | call (target : UInt16)
  /-- The next instruction is skipped if VX is the constant. -/
  | skipIfByte (x value : UInt8)
  /-- The next instruction is skipped unless VX is the constant. -/
  | skipUnlessByte (x value : UInt8)
  /-- The next instruction is skipped if VX is VY. -/
  | skipIfSame (x y : UInt8)
  /-- The next instruction is skipped unless VX is VY. -/
  | skipUnlessSame (x y : UInt8)
  /-- VX becomes the constant. -/
  | setByte (x value : UInt8)
  /-- The constant is added to VX and the carry dropped. -/
  | addByte (x value : UInt8)
  /-- VX becomes VY. -/
  | copy (x y : UInt8)
  /-- VX becomes the bits set in VX or in VY. -/
  | or (x y : UInt8)
  /-- VX becomes the bits set in VX and in VY. -/
  | and (x y : UInt8)
  /-- VX becomes the bits set in exactly one of VX and VY. -/
  | xor (x y : UInt8)
  /-- VY is added to VX and VF tells the carry. -/
  | add (x y : UInt8)
  /-- VY is subtracted from VX and VF tells that nothing was borrowed. -/
  | subtract (x y : UInt8)
  /-- VX is halved and VF takes the bit shifted out. -/
  | shiftRight (x y : UInt8)
  /-- VX becomes VY less VX and VF tells that nothing was borrowed. -/
  | subtractFrom (x y : UInt8)
  /-- VX is doubled and VF takes the bit shifted out. -/
  | shiftLeft (x y : UInt8)
  /-- The index becomes an address. -/
  | setIndex (target : UInt16)
  /-- Execution continues at an address plus V0. -/
  | jumpOffset (base : UInt16)
  /-- VX becomes a random byte masked by the constant. -/
  | random (x mask : UInt8)
  /-- A sprite of the given height is drawn at (VX, VY) and VF tells a collision. -/
  | draw (x y height : UInt8)
  /-- The next instruction is skipped if the key numbered VX is held. -/
  | skipIfKey (x : UInt8)
  /-- The next instruction is skipped unless the key numbered VX is held. -/
  | skipUnlessKey (x : UInt8)
  /-- VX becomes the delay timer. -/
  | readDelay (x : UInt8)
  /-- Execution waits for a key, whose number VX becomes. -/
  | awaitKey (x : UInt8)
  /-- The delay timer becomes VX. -/
  | setDelay (x : UInt8)
  /-- The sound timer becomes VX. -/
  | setSound (x : UInt8)
  /-- VX is added to the index and VF tells whether it passed the memory's end. -/
  | addIndex (x : UInt8)
  /-- The index becomes the address of the glyph of VX. -/
  | pointGlyph (x : UInt8)
  /-- The three decimal digits of VX are stored at the index. -/
  | storeDecimal (x : UInt8)
  /-- The registers V0 to VX are stored at the index, which moves past them. -/
  | storeRegisters (x : UInt8)
  /-- The registers V0 to VX are loaded from the index, which moves past them. -/
  | loadRegisters (x : UInt8)
  /-- The word is no instruction. -/
  | unimplemented (word : UInt16)
deriving DecidableEq, Repr

end Chip8
