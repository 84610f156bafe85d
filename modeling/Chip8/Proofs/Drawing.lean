import Chip8.Proofs.Blocks
import Mathlib.Data.List.Nodup

/-!
# Drawing in closed form

Drawing turns pixels over one point after the other and looks at each pixel on the way. What
it leaves depends only on how often the points hit each cell: a cell is turned over when it is
hit an odd number of times (`pixels_draw`), and a collision is reported when some cell is on
at one of its hits (`collided_draw`). A sprite of at most thirty-two rows never hits a cell
twice (`hits_points_le_one`), so there a collision tells that a lit cell was on before.
-/
namespace Chip8

/-- How often a list of points hits a cell. -/
def hits (points : List Point) (cell : Fin 2048) : Nat := (points.map Point.cell).count cell

/-- The first point of a list adds a hit to its cell. -/
theorem hits_cons (point : Point) (points : List Point) (cell : Fin 2048) :
    hits (point :: points) cell = hits points cell + if point.cell = cell then 1 else 0 := by
  simp only [hits, List.map_cons, List.count_cons, beq_iff_eq]

/-- A cell is hit when some point falls on it. -/
theorem hits_pos_iff {points : List Point} {cell : Fin 2048} :
    0 < hits points cell ↔ ∃ point ∈ points, point.cell = cell := by
  rw [hits, List.count_pos_iff, List.mem_map]

namespace Screen

/-- A pixel turned over twice is as before. -/
theorem turn_turn (pixel : UInt8) : pixel ^^^ 1 ^^^ 1 = pixel := by
  rw [UInt8.xor_assoc, UInt8.xor_self, UInt8.xor_zero]

/-- Turning a point over changes its cell only. -/
theorem pixels_flip (drawing : Drawing) (point : Point) (cell : Fin 2048) :
    (drawing.flip point).pixels.get cell =
      if point.cell = cell then drawing.pixels.get cell ^^^ 1 else drawing.pixels.get cell := by
  obtain ⟨pixels, collided⟩ := drawing
  rw [Drawing.flip, get_set_cell]
  by_cases same : point.cell = cell
  · subst same
    rw [if_pos rfl, if_pos rfl]
    rfl
  · rw [if_neg same, if_neg same]

/-- Turning a point over reports a collision when its pixel was on. -/
theorem collided_flip (drawing : Drawing) (point : Point) :
    (drawing.flip point).collided = true ↔
      drawing.collided = true ∨ drawing.pixels.get point.cell = 1 := by
  obtain ⟨pixels, collided⟩ := drawing
  show (collided || pixels.get point.cell == 1) = true ↔ _
  rw [Bool.or_eq_true, beq_iff_eq]

/-- A cell that is hit an odd number of times is turned over and any other is left. -/
theorem pixels_foldl_flip (drawing : Drawing) (points : List Point) (cell : Fin 2048) :
    (points.foldl Drawing.flip drawing).pixels.get cell =
      if hits points cell % 2 = 1 then drawing.pixels.get cell ^^^ 1
      else drawing.pixels.get cell := by
  induction points generalizing drawing with
  | nil => rfl
  | cons point points inductionHypothesis =>
    rw [List.foldl_cons, inductionHypothesis, pixels_flip, hits_cons]
    by_cases same : point.cell = cell
    · rw [if_pos same, if_pos same, turn_turn]
      rcases Nat.mod_two_eq_zero_or_one (hits points cell) with even | odd
      · rw [if_neg (by omega), if_pos (by omega)]
      · rw [if_pos odd, if_neg (by omega)]
    · rw [if_neg same, if_neg same, Nat.add_zero]

/-- A cell is on at one of its hits when it is on before the first, or is turned on by the
first and hit again. -/
def Struck (pixel : UInt8) (count : Nat) : Prop :=
  (pixel = 1 ∧ 1 ≤ count) ∨ (pixel ^^^ 1 = 1 ∧ 2 ≤ count)

/-- The hits of a cell that is hit once more are the first hit and the hits of the pixel turned
over. -/
theorem struck_succ_iff {pixel : UInt8} {count : Nat} :
    Struck pixel (count + 1) ↔ pixel = 1 ∨ Struck (pixel ^^^ 1) count := by
  simp only [Struck, turn_turn]
  constructor
  · rintro (⟨on, _⟩ | ⟨off, again⟩)
    · exact .inl on
    · exact .inr (.inl ⟨off, by omega⟩)
  · rintro (on | ⟨off, again⟩ | ⟨on, _⟩)
    · exact .inl ⟨on, by omega⟩
    · exact .inr ⟨off, by omega⟩
    · exact .inl ⟨on, by omega⟩

/-- A collision is reported if there was one before, or if some cell is on at one of its
hits. -/
theorem collided_foldl_flip (drawing : Drawing) (points : List Point) :
    (points.foldl Drawing.flip drawing).collided = true ↔
      drawing.collided = true ∨
        ∃ cell : Fin 2048, Struck (drawing.pixels.get cell) (hits points cell) := by
  induction points generalizing drawing with
  | nil => simp [hits, Struck]
  | cons point points inductionHypothesis =>
    rw [List.foldl_cons, inductionHypothesis, collided_flip, or_assoc]
    refine or_congr_right ?_
    constructor
    · rintro (on | ⟨cell, struck⟩)
      · refine ⟨point.cell, ?_⟩
        rw [hits_cons, if_pos rfl]
        exact struck_succ_iff.2 (.inl on)
      · refine ⟨cell, ?_⟩
        rw [pixels_flip] at struck
        rw [hits_cons]
        by_cases same : point.cell = cell
        · rw [if_pos same] at struck ⊢
          exact struck_succ_iff.2 (.inr struck)
        · rwa [if_neg same] at struck ⊢
    · rintro ⟨cell, struck⟩
      rw [hits_cons] at struck
      by_cases same : point.cell = cell
      · rw [if_pos same] at struck
        rcases struck_succ_iff.1 struck with on | later
        · subst same
          exact .inl on
        · refine .inr ⟨cell, ?_⟩
          rwa [pixels_flip, if_pos same]
      · refine .inr ⟨cell, ?_⟩
        rw [if_neg same] at struck
        rwa [pixels_flip, if_neg same]

/-- After drawing, a cell is turned over if it was hit an odd number of times. -/
theorem pixels_draw (pixels : Pixels) (points : List Point) (cell : Fin 2048) :
    (draw pixels points).pixels.get cell =
      if hits points cell % 2 = 1 then pixels.get cell ^^^ 1 else pixels.get cell :=
  pixels_foldl_flip ⟨pixels, false⟩ points cell

/-- Drawing reports a collision exactly when some cell is on at one of its hits. -/
theorem collided_draw (pixels : Pixels) (points : List Point) :
    (draw pixels points).collided = true ↔
      ∃ cell : Fin 2048, Struck (pixels.get cell) (hits points cell) := by
  rw [draw, collided_foldl_flip]
  simp only [Bool.false_eq_true, false_or]

end Screen

namespace Sprite

/-- A row lights a point for each of its set bits. -/
theorem mem_rowPoints {x y : Nat} {row : UInt8} {point : Point} :
    point ∈ rowPoints x y row ↔
      ∃ j < 8, row.toNat.testBit (7 - j) = true ∧ point = ⟨x + j, y⟩ := by
  simp only [rowPoints, List.mem_map, List.mem_filter, List.mem_range]
  constructor
  · rintro ⟨j, ⟨inside, bit⟩, rfl⟩
    exact ⟨j, inside, bit, rfl⟩
  · rintro ⟨j, inside, bit, rfl⟩
    exact ⟨j, ⟨inside, bit⟩, rfl⟩

/-- A sprite lights a point for each set bit of each of its rows. -/
theorem mem_points {x y : Nat} {sprite : List UInt8} {point : Point} :
    point ∈ points x y sprite ↔
      ∃ i row, sprite[i]? = some row ∧
        ∃ j < 8, row.toNat.testBit (7 - j) = true ∧ point = ⟨x + j, y + i⟩ := by
  induction sprite generalizing y with
  | nil => simp [points]
  | cons first rest inductionHypothesis =>
    rw [points, List.mem_append, mem_rowPoints, inductionHypothesis]
    constructor
    · rintro (⟨j, inside, bit, rfl⟩ | ⟨i, row, found, j, inside, bit, rfl⟩)
      · exact ⟨0, first, rfl, j, inside, bit, rfl⟩
      · refine ⟨i + 1, row, found, j, inside, bit, ?_⟩
        rw [Nat.add_assoc, Nat.add_comm 1]
    · rintro ⟨i, row, found, j, inside, bit, rfl⟩
      cases i with
      | zero =>
        obtain rfl := Option.some.inj found
        exact .inl ⟨j, inside, bit, rfl⟩
      | succ i =>
        refine .inr ⟨i, row, found, j, inside, bit, ?_⟩
        rw [Nat.add_assoc, Nat.add_comm 1]

/-- A point of a sprite lies at most seven columns and less than its length of rows from the
corner. -/
theorem bounds_of_mem_points {x y : Nat} {sprite : List UInt8} {point : Point}
    (lit : point ∈ points x y sprite) :
    x ≤ point.column ∧ point.column < x + 8 ∧
      y ≤ point.row ∧ point.row < y + sprite.length := by
  obtain ⟨i, row, found, j, inside, _, rfl⟩ := mem_points.1 lit
  obtain ⟨short, _⟩ := List.getElem?_eq_some_iff.1 found
  refine ⟨?_, ?_, ?_, ?_⟩ <;> dsimp only <;> omega

/-- No point is lit twice by a row. -/
theorem nodup_rowPoints (x y : Nat) (row : UInt8) : (rowPoints x y row).Nodup := by
  refine (List.nodup_range.filter _).map fun j k same => ?_
  have columns := (Point.mk.inj same).1
  omega

/-- No point is lit twice by a sprite. -/
theorem nodup_points (x y : Nat) (sprite : List UInt8) : (points x y sprite).Nodup := by
  induction sprite generalizing y with
  | nil => exact List.nodup_nil
  | cons row rest inductionHypothesis =>
    rw [points, List.nodup_append]
    refine ⟨nodup_rowPoints x y row, inductionHypothesis (y + 1), ?_⟩
    rintro point above other below rfl
    obtain ⟨j, _, _, rfl⟩ := mem_rowPoints.1 above
    have lower := (bounds_of_mem_points below).2.2.1
    exact absurd lower (Nat.not_succ_le_self y)

/-- The points of a sprite of at most thirty-two rows fall on different cells. -/
theorem cell_injective {x y : Nat} {sprite : List UInt8} (short : sprite.length ≤ 32)
    {left right : Point} (leftLit : left ∈ points x y sprite)
    (rightLit : right ∈ points x y sprite) (same : left.cell = right.cell) : left = right := by
  have leftBounds := bounds_of_mem_points leftLit
  have rightBounds := bounds_of_mem_points rightLit
  obtain ⟨leftColumn, leftRow⟩ := left
  obtain ⟨rightColumn, rightRow⟩ := right
  simp only [Point.cell, Point.number, Fin.mk.injEq] at same
  dsimp only at leftBounds rightBounds
  have columns : leftColumn = rightColumn := by omega
  have rows : leftRow = rightRow := by omega
  rw [columns, rows]

/-- A sprite of at most thirty-two rows hits no cell twice. -/
theorem hits_points_le_one (x y : Nat) {sprite : List UInt8} (short : sprite.length ≤ 32)
    (cell : Fin 2048) : hits (points x y sprite) cell ≤ 1 := by
  have different : ((points x y sprite).map Point.cell).Nodup :=
    List.Nodup.map_on (fun _ left _ right => cell_injective short left right)
      (nodup_points x y sprite)
  exact List.nodup_iff_count_le_one.1 different cell

end Sprite

end Chip8
