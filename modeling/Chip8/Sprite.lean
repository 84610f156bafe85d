import Chip8.Diagnostic

/-!
# Sprites

A sprite is a list of rows of eight pixels, the most significant bit leftmost. Placed at a
position it lights a list of points, row by row and from left to right. Points are counted
from the top left corner of the screen and are not reduced to it: a point to the right of a
row continues on the next, and a point below the last row wraps to the top.
-/
namespace Chip8

/-- A position counted in pixels from the top left corner, on the screen or beyond it. -/
structure Point where
  /-- Pixels to the right. -/
  column : Nat
  /-- Pixels down. -/
  row : Nat
deriving DecidableEq, Repr

namespace Point

/-- Points are numbered along the rows of sixty-four pixels. -/
def number (point : Point) : Nat := point.column + point.row * 64

/-- The cell of the screen that a point falls on. -/
def cell (point : Point) : Fin 2048 := ⟨point.number % 2048, Nat.mod_lt _ (by decide)⟩

/-- A point is outside when its number passes the last cell. -/
def Outside (point : Point) : Prop := 2048 ≤ point.number

/-- Being outside is a comparison of numbers. -/
instance : DecidablePred Outside := fun point => inferInstanceAs (Decidable (2048 ≤ point.number))

end Point

namespace Sprite

/-- The points that one row lights, from left to right. -/
def rowPoints (x y : Nat) (row : UInt8) : List Point :=
  ((List.range 8).filter fun j => row.toNat.testBit (7 - j)).map fun j => ⟨x + j, y⟩

/-- The points that a sprite lights, row by row. -/
def points (x y : Nat) : List UInt8 → List Point
  | [] => []
  | row :: rest => rowPoints x y row ++ points x (y + 1) rest

/-- Every lit point outside the screen is reported, in drawing order. -/
def notes (x y : UInt8) (sprite : List UInt8) : List Diagnostic :=
  ((points x.toNat y.toNat sprite).filter fun point => decide point.Outside).map fun point =>
    .pixelWrapped point.column point.row

end Sprite

end Chip8
