import Chip8.Sprite

/-!
# The screen

Thirty-two rows of sixty-four pixels, one byte for each pixel, and a mark that tells whether
the picture was drawn upon since it was last taken. Drawing turns over every pixel that the
sprite lights and reports a collision when it turned one off.
-/
namespace Chip8

/-- One byte for each pixel, along the rows. -/
abbrev Pixels := Vector UInt8 2048

/-- A picture and whether it is waiting to be taken. -/
structure Screen where
  /-- The picture. -/
  pixels : Pixels
  /-- The picture was drawn upon since it was last taken. -/
  dirty : Bool
deriving DecidableEq

namespace Screen

/-- Pixels in a row. -/
def width : Nat := 64

/-- Rows. -/
def height : Nat := 32

/-- Every pixel is off. -/
def blankPixels : Pixels := Vector.replicate 2048 0

/-- A blank picture that nobody waits for. -/
def blank : Screen := ⟨blankPixels, false⟩

/-- Every pixel is turned off, and the blank picture waits to be taken. -/
def clear (_screen : Screen) : Screen := ⟨blankPixels, true⟩

/-- A picture being drawn upon, and whether a pixel was turned off. -/
structure Drawing where
  /-- The picture so far. -/
  pixels : Pixels
  /-- A lit pixel was hit. -/
  collided : Bool

/-- One pixel is turned over. -/
def Drawing.flip (drawing : Drawing) (point : Point) : Drawing :=
  let ⟨pixels, collided⟩ := drawing
  let old := pixels[point.cell]
  ⟨pixels.set point.cell (old ^^^ 1) point.cell.isLt, collided || old == 1⟩

/-- The points of a list are turned over one after the other. -/
def draw (pixels : Pixels) (points : List Point) : Drawing :=
  points.foldl Drawing.flip ⟨pixels, false⟩

/-- A sprite is drawn with its corner at a position; the picture then waits to be taken, even
if no pixel changed. -/
def paint (screen : Screen) (x y : UInt8) (sprite : List UInt8) : Bool × Screen :=
  let ⟨pixels, _⟩ := screen
  let drawing := draw pixels (Sprite.points x.toNat y.toNat sprite)
  (drawing.collided, ⟨drawing.pixels, true⟩)

/-- Coordinates are sixty-four bit numbers, and so is the number of the pixel they name:
coordinates whose number does not fit are refused, others wrap to the screen. -/
def get? (screen : Screen) (x y : Nat) : Option UInt8 :=
  let point : Point := ⟨x, y⟩
  if point.number < UInt64.size then some screen.pixels[point.cell] else none

/-- Taking hands out the picture if it waits, and nobody waits for it any more. -/
def take (screen : Screen) : Option Pixels × Screen :=
  (if screen.dirty then some screen.pixels else none, { screen with dirty := false })

end Screen

end Chip8
