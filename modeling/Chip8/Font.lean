/-!
# The font

Sixteen glyphs, one for each hexadecimal digit. A glyph is five bytes, one for each row from
top to bottom, and its pixels are the high four bits.
-/
namespace Chip8.Font

/-- The glyphs of the digits 0 to F, one after the other. -/
def bytes : List UInt8 :=
  [0xF0, 0x90, 0x90, 0x90, 0xF0,
   0x20, 0x60, 0x20, 0x20, 0x70,
   0xF0, 0x10, 0xF0, 0x80, 0xF0,
   0xF0, 0x10, 0xF0, 0x10, 0xF0,
   0x90, 0x90, 0xF0, 0x10, 0x10,
   0xF0, 0x80, 0xF0, 0x10, 0xF0,
   0xF0, 0x80, 0xF0, 0x90, 0xF0,
   0xF0, 0x10, 0x20, 0x40, 0x40,
   0xF0, 0x90, 0xF0, 0x90, 0xF0,
   0xF0, 0x90, 0xF0, 0x10, 0xF0,
   0xF0, 0x90, 0xF0, 0x90, 0x90,
   0xE0, 0x90, 0xE0, 0x90, 0xE0,
   0xF0, 0x80, 0x80, 0x80, 0xF0,
   0xE0, 0x90, 0x90, 0x90, 0xE0,
   0xF0, 0x80, 0xF0, 0x80, 0xF0,
   0xF0, 0x80, 0xF0, 0x80, 0x80]

/-- The address of the first glyph. -/
def start : Nat := 0

/-- The bytes of one glyph. -/
def glyphBytes : Nat := 5

/-- Sixteen glyphs of five bytes. -/
theorem length_bytes : bytes.length = 16 * glyphBytes := rfl

end Chip8.Font
