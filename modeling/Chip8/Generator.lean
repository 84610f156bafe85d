/-!
# The random source

A machine knows its random source by the bytes it yields, one after the other; what yields
them belongs to the host. A source is the whole sequence of its bytes and the number of those
already drawn. The source of a repeatable run is a sixty-four bit number that grows by a fixed
increment at each draw and hands out its low byte.
-/
namespace Chip8

/-- A sequence of bytes and how far it is used up. -/
structure Generator where
  /-- Every byte of the source, in the order of the draws. -/
  bytes : Nat → UInt8
  /-- The bytes already drawn. -/
  drawn : Nat

namespace Generator

/-- The low bytes of an arithmetic progression modulo 2⁶⁴. -/
def progression (value increment : UInt64) : Generator where
  bytes draw := (value + UInt64.ofNat draw * increment).toUInt8
  drawn := 0

/-- The source that always yields zero. -/
def zero : Generator := progression 0 0

/-- The byte that the next draw yields. -/
def byte (generator : Generator) : UInt8 := generator.bytes generator.drawn

/-- The source after a draw. -/
def next (generator : Generator) : Generator := { generator with drawn := generator.drawn + 1 }

end Generator

end Chip8
