import Chip8.Proofs.Drawing
import Mathlib.Data.Finset.Card
import Mathlib.Data.Finset.Prod

/-!
# A painted sprite, bit by bit

Painting lights one point for each set bit of a sprite, and no point twice, so whatever the points
of a sprite are counted by, the set bits can be counted by instead (`length_filter_points`). Hence
the number of set bits that strike a cell decides what painting leaves in it and whether a
collision is reported, also where a sprite is so long that it comes upon itself (`painted_of_binary`):
the collision is then found on a picture that is partly painted.
-/
namespace Chip8

namespace Sprite

/-- The row and the column of every bit of a sprite that is set; a row begins with its most
significant bit. -/
def setBits (sprite : List UInt8) : Finset (Nat × Nat) :=
  (Finset.range sprite.length ×ˢ Finset.range 8).filter fun bit =>
    ((sprite[bit.1]?).getD 0).toNat.testBit (7 - bit.2) = true

/-- The number of the pixel on which a bit falls, counted along the rows and beyond the screen. -/
def position (x y : UInt8) (bit : Nat × Nat) : Nat := x.toNat + bit.2 + 64 * (y.toNat + bit.1)

/-- How many set bits of a sprite strike a cell of the screen. -/
def strikes (x y : UInt8) (sprite : List UInt8) (cell : Fin 2048) : Nat :=
  ((setBits sprite).filter fun bit => position x y bit % 2048 = cell).card

/-- The point that a bit lights. -/
def place (x y : Nat) (bit : Nat × Nat) : Point := ⟨x + bit.2, y + bit.1⟩

/-- Different bits light different points. -/
theorem place_injective (x y : Nat) : Function.Injective (place x y) := by
  intro left right same
  have columns := (Point.mk.inj same).1
  have rows := (Point.mk.inj same).2
  apply Prod.ext
  · omega
  · omega

/-- A set bit is one of the eight of a row of the sprite. -/
theorem mem_setBits {sprite : List UInt8} {bit : Nat × Nat} :
    bit ∈ setBits sprite ↔
      ∃ row, sprite[bit.1]? = some row ∧
        bit.2 < 8 ∧ row.toNat.testBit (7 - bit.2) = true := by
  rw [setBits, Finset.mem_filter, Finset.mem_product, Finset.mem_range, Finset.mem_range]
  constructor
  · intro ⟨⟨inside, column⟩, set⟩
    have found := List.getElem?_eq_getElem inside
    refine ⟨sprite[bit.1], found, column, ?_⟩
    rwa [found, Option.getD_some] at set
  · intro ⟨row, found, column, set⟩
    have inside := (List.getElem?_eq_some_iff.1 found).1
    refine ⟨⟨inside, column⟩, ?_⟩
    rwa [found, Option.getD_some]

/-- The points of a sprite are the places of its set bits. -/
theorem toFinset_points (x y : Nat) (sprite : List UInt8) :
    (points x y sprite).toFinset = (setBits sprite).image (place x y) := by
  ext point
  rw [List.mem_toFinset, Finset.mem_image, mem_points]
  constructor
  · intro ⟨i, row, found, j, column, set, placed⟩
    exact ⟨(i, j), mem_setBits.2 ⟨row, found, column, set⟩, placed.symm⟩
  · intro ⟨bit, lit, placed⟩
    obtain ⟨row, found, column, set⟩ := mem_setBits.1 lit
    exact ⟨bit.1, row, found, bit.2, column, set, placed.symm⟩

/-- Among the points of a sprite there are as many of a kind as there are set bits with a place of
that kind. -/
theorem length_filter_points (x y : Nat) (sprite : List UInt8) (kind : Point → Prop)
    [DecidablePred kind] :
    ((points x y sprite).filter fun point => decide (kind point)).length =
      ((setBits sprite).filter fun bit => kind (place x y bit)).card := by
  have different := (nodup_points x y sprite).filter fun point => decide (kind point)
  have kept : ((points x y sprite).filter fun point => decide (kind point)).toFinset =
      ((setBits sprite).filter fun bit => kind (place x y bit)).image (place x y) := by
    rw [List.toFinset_filter, toFinset_points, Finset.filter_image]
    simp only [decide_eq_true_eq]
  rw [← List.toFinset_card_of_nodup different, kept]
  exact Finset.card_image_of_injective _ (place_injective x y)

/-- The place of a bit has the number of its pixel. -/
theorem number_place (x y : UInt8) (bit : Nat × Nat) :
    (place x.toNat y.toNat bit).number = position x y bit := by
  rw [place, Point.number, position, Nat.mul_comm]

/-- A cell is hit by as many points of a sprite as set bits strike it. -/
theorem hits_points (x y : UInt8) (sprite : List UInt8) (cell : Fin 2048) :
    hits (points x.toNat y.toNat sprite) cell = strikes x y sprite cell := by
  have counted := length_filter_points x.toNat y.toNat sprite fun point => point.cell = cell
  have struck (bit : Nat × Nat) :
      (place x.toNat y.toNat bit).cell = cell ↔ position x y bit % 2048 = cell := by
    rw [Fin.ext_iff, ← number_place]
    rfl
  simp only [struck] at counted
  rw [hits, List.count, List.countP_map, List.countP_eq_length_filter, strikes, ← counted]
  rfl

/-- Painting notes one pixel for each set bit that falls outside the screen. -/
theorem length_notes (x y : UInt8) (sprite : List UInt8) :
    (notes x y sprite).length =
      ((setBits sprite).filter fun bit => 2048 ≤ position x y bit).card := by
  have counted := length_filter_points x.toNat y.toNat sprite Point.Outside
  simp only [Point.Outside, number_place] at counted
  rw [notes, List.length_map, ← counted]
  rfl

/-- Painting notes no pixel twice. -/
theorem nodup_notes (x y : UInt8) (sprite : List UInt8) : (notes x y sprite).Nodup := by
  refine ((nodup_points x.toNat y.toNat sprite).filter _).map fun left right same => ?_
  obtain ⟨column, row⟩ := left
  injection same with columns rows
  dsimp only at columns rows
  rw [columns, rows]

/-- A set bit that falls outside the screen is noted once. -/
theorem count_notes {x y : UInt8} {sprite : List UInt8} {bit : Nat × Nat}
    (lit : bit ∈ setBits sprite) (outside : 2048 ≤ position x y bit) :
    (notes x y sprite).count (.pixelWrapped (x.toNat + bit.2) (y.toNat + bit.1)) = 1 := by
  apply List.count_eq_one_of_mem (nodup_notes x y sprite)
  have drawn : place x.toNat y.toNat bit ∈ points x.toNat y.toNat sprite := by
    rw [← List.mem_toFinset, toFinset_points]
    exact Finset.mem_image_of_mem _ lit
  rw [← number_place] at outside
  have noted : place x.toNat y.toNat bit ∈
      (points x.toNat y.toNat sprite).filter fun point => decide point.Outside :=
    List.mem_filter.2 ⟨drawn, decide_eq_true outside⟩
  exact List.mem_map_of_mem noted

end Sprite

namespace Screen

/-- A pixel that is off or on is turned over by adding its strikes modulo two. -/
theorem toNat_turned {pixel : UInt8} (binary : pixel = 0 ∨ pixel = 1) (count : Nat) :
    (if count % 2 = 1 then pixel ^^^ 1 else pixel).toNat = (pixel.toNat + count) % 2 := by
  have off : (0 : UInt8).toNat = 0 ∧ ((0 : UInt8) ^^^ 1).toNat = 1 := by decide
  have on : (1 : UInt8).toNat = 1 ∧ ((1 : UInt8) ^^^ 1).toNat = 0 := by decide
  rcases binary with rfl | rfl
  · split <;> omega
  · split <;> omega

/-- A pixel that is off or on is on at one of its strikes if it is struck at all, and was on before
or is struck again. -/
theorem struck_iff_of_binary {pixel : UInt8} (binary : pixel = 0 ∨ pixel = 1) (count : Nat) :
    Struck pixel count ↔ 1 ≤ count ∧ (pixel = 1 ∨ 2 ≤ count) := by
  rcases binary with off | on
  · have turned : (0 : UInt8) ^^^ 1 = 1 := by decide
    have different : (0 : UInt8) ≠ 1 := by decide
    rw [Struck, off, turned]
    simp only [different, false_and, true_and, false_or]
    omega
  · have turned : (1 : UInt8) ^^^ 1 ≠ 1 := by decide
    rw [Struck, on]
    simp only [turned, false_and, true_and, or_false, true_or, and_true]

/-- What painting a sprite on a screen leaves, returns and notes, by the set bits of the sprite. -/
structure Painted (old : Screen) (x y : UInt8) (sprite : List UInt8) (collided : Bool)
    (new : Screen) (notes : List Diagnostic) : Prop where
  /-- Every strike of a cell adds one to it, modulo two. -/
  pixel : ∀ cell, (new.pixels.get cell).toNat =
    ((old.pixels.get cell).toNat + Sprite.strikes x y sprite cell) % 2
  /-- The picture waits to be taken. -/
  waits : new.dirty = true
  /-- A collision is reported when a cell is struck that was on, or is struck twice. -/
  collision : collided = true ↔ ∃ cell, 1 ≤ Sprite.strikes x y sprite cell ∧
    (old.pixels.get cell = 1 ∨ 2 ≤ Sprite.strikes x y sprite cell)
  /-- There are as many notes as set bits outside the screen. -/
  noted : notes.length =
    ((Sprite.setBits sprite).filter fun bit => 2048 ≤ Sprite.position x y bit).card
  /-- Each set bit outside the screen is noted once. -/
  notedOnce : ∀ bit ∈ Sprite.setBits sprite, 2048 ≤ Sprite.position x y bit →
    notes.count (.pixelWrapped (x.toNat + bit.2) (y.toNat + bit.1)) = 1

/-- A pixel is read at the cell on which a bit of the same number falls. -/
theorem get?_of_fits (screen : Screen) {a b : Nat} (fits : a + 64 * b < UInt64.size) :
    ∃ cell : Fin 2048, cell.val = (a + 64 * b) % 2048 ∧
      screen.get? a b = some (screen.pixels.get cell) := by
  have number : Point.number ⟨a, b⟩ = a + 64 * b := by
    rw [Point.number, Nat.mul_comm]
  rw [← number] at fits ⊢
  refine ⟨Point.cell ⟨a, b⟩, rfl, ?_⟩
  rw [get?, if_pos fits]
  rfl

/-- **Painting adds the strikes of a sprite to the screen.** On a screen whose cells are off or on,
every cell is turned over as often as the set bits of the sprite strike it, a collision is reported
exactly when a struck cell was on or is struck again, and each set bit outside the screen is noted
once; a pixel is read, before and after, from the cell that a bit of the same number strikes. -/
theorem painted_of_binary (screen : Screen) (x y : UInt8) (sprite : List UInt8)
    (binary : ∀ cell, screen.pixels.get cell = 0 ∨ screen.pixels.get cell = 1) :
    let painted := screen.paint x y sprite
    Painted screen x y sprite painted.1 painted.2 (Sprite.notes x y sprite) ∧
      ∀ shown : Screen, ∀ a b, a + 64 * b < UInt64.size →
        ∃ cell : Fin 2048, cell.val = (a + 64 * b) % 2048 ∧
          shown.get? a b = some (shown.pixels.get cell) := by
  intro painted
  refine ⟨⟨fun cell => ?_, rfl, ?_, Sprite.length_notes x y sprite,
    fun bit lit outside => Sprite.count_notes lit outside⟩,
    fun shown a b fits => shown.get?_of_fits fits⟩
  · have left := pixels_draw screen.pixels (Sprite.points x.toNat y.toNat sprite) cell
    rw [Sprite.hits_points] at left
    exact (congrArg UInt8.toNat left).trans (toNat_turned (binary cell) _)
  · have found := collided_draw screen.pixels (Sprite.points x.toNat y.toNat sprite)
    simp only [Sprite.hits_points, struck_iff_of_binary (binary _)] at found
    exact found

/-- A column of thirty-three pixels comes upon its own first pixel, at the top of the screen: the
pixel is turned off again, which is a collision although the screen was blank, and the last pixel is
noted. -/
theorem painted_of_binary_column :
    let sprite := List.replicate 33 (128 : UInt8)
    (blank.paint 0 0 sprite).1 = true ∧
      ((blank.paint 0 0 sprite).2.pixels.get ⟨0, by decide⟩).toNat = 0 ∧
      (Sprite.notes 0 0 sprite).length = 1 := by
  intro sprite
  have off (cell : Fin 2048) : blank.pixels.get cell = 0 := get_replicate_cell 0 cell
  have painted := (painted_of_binary blank 0 0 sprite fun cell => .inl (off cell)).1
  have twice : Sprite.strikes 0 0 sprite ⟨0, by decide⟩ = 2 := by decide +kernel
  have outside :
      ((Sprite.setBits sprite).filter fun bit => 2048 ≤ Sprite.position 0 0 bit).card = 1 := by
    decide +kernel
  refine ⟨painted.collision.2 ⟨⟨0, by decide⟩, ?_⟩, ?_, painted.noted.trans outside⟩
  · omega
  · rw [painted.pixel, twice, off]
    decide

end Screen

end Chip8
