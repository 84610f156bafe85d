import Chip8.Proofs.Effects
import Chip8.Proofs.Painting

/-!
# Drawing cancels

A sprite turns over the pixels that its set bits strike, whatever was drawn before. Sprites painted
in another order therefore leave the same picture, and what is painted twice cancels, also between
other paintings (`pixels_paintAll_of_even`). The instruction that draws keeps to this when it takes
its position from registers other than VF, in which it tells of a collision: executed twice in a row
it restores the picture (`drawnTwice`). A sprite of at most thirty-two rows strikes no cell twice, so
the first of the two tells whether one of its bits strikes a pixel that is on, and the second whether
one strikes a pixel that was off.
-/
namespace Chip8

/-- What may be done in any order, and is undone by doing it again, comes to nothing when
everything is done an even number of times. -/
theorem foldl_of_even {State Item : Type} [DecidableEq Item] {step : State → Item → State}
    (commute : ∀ state first second,
      step (step state first) second = step (step state second) first)
    (undo : ∀ state item, step (step state item) item = state) {items : List Item}
    (even : ∀ item, items.count item % 2 = 0) (state : State) : items.foldl step state = state := by
  -- The first item occurs again; both are left out, which leaves a shorter list.
  induction size : items.length using Nat.strong_induction_on generalizing items with
  | h length inductionHypothesis =>
    cases items with
    | nil => rfl
    | cons first rest =>
      have again : first ∈ rest := by
        have twice := even first
        rw [List.count_cons_self] at twice
        exact List.count_pos_iff.1 (by omega)
      have paired : (first :: rest).Perm (first :: first :: rest.erase first) :=
        (List.perm_cons_erase again).cons first
      have evenLeft (item : Item) : (rest.erase first).count item % 2 = 0 := by
        have before := even item
        rw [paired.count_eq, List.count_cons, List.count_cons] at before
        omega
      have shorter : (rest.erase first).length < length := by
        rw [← size, List.length_erase_of_mem again, List.length_cons]
        omega
      calc (first :: rest).foldl step state
        _ = (first :: first :: rest.erase first).foldl step state :=
          paired.foldl_eq' (fun one _ other _ state => commute state one other) state
        _ = (rest.erase first).foldl step (step (step state first) first) := rfl
        _ = (rest.erase first).foldl step state := by rw [undo]
        _ = state := inductionHypothesis _ shorter evenLeft rfl

namespace Sprite

/-- The cell of the screen that a bit strikes. -/
def target (x y : UInt8) (bit : Nat × Nat) : Fin 2048 :=
  ⟨position x y bit % 2048, Nat.mod_lt _ (by decide)⟩

/-- A cell is hit by a point of a sprite exactly when one of its set bits strikes it. -/
theorem hits_points_pos_iff {x y : UInt8} {sprite : List UInt8} {cell : Fin 2048} :
    0 < hits (points x.toNat y.toNat sprite) cell ↔ ∃ bit ∈ setBits sprite, target x y bit = cell := by
  rw [hits_points, strikes, Finset.card_pos]
  simp only [Finset.Nonempty, Finset.mem_filter, Fin.ext_iff, target]

end Sprite

namespace Screen

open Sprite (setBits target points)

/-- A sprite to be painted, and where. -/
structure Stroke where
  /-- Pixels from the left to the corner of the sprite. -/
  x : UInt8
  /-- Pixels from the top to the corner of the sprite. -/
  y : UInt8
  /-- The rows of the sprite. -/
  sprite : List UInt8
deriving DecidableEq

/-- The screen after sprites were painted one after the other. -/
def paintAll (screen : Screen) (strokes : List Stroke) : Screen :=
  strokes.foldl (fun screen stroke => (screen.paint stroke.x stroke.y stroke.sprite).2) screen

/-- The picture after a sprite was painted. -/
def stroked (pixels : Pixels) (stroke : Stroke) : Pixels :=
  (draw pixels (points stroke.x.toNat stroke.y.toNat stroke.sprite)).pixels

/-- Painting sprites changes the picture as each of them does. -/
theorem pixels_paintAll (screen : Screen) (strokes : List Stroke) :
    (screen.paintAll strokes).pixels = strokes.foldl stroked screen.pixels := by
  induction strokes generalizing screen with
  | nil => rfl
  | cons stroke later inductionHypothesis => exact inductionHypothesis _

/-- Two sprites leave the same picture in either order. -/
theorem stroked_comm (pixels : Pixels) (first second : Stroke) :
    stroked (stroked pixels first) second = stroked (stroked pixels second) first := by
  refine ext_cells fun cell => ?_
  simp only [stroked, pixels_draw]
  split <;> split <;> rfl

/-- A sprite painted twice leaves the picture as it was. -/
theorem stroked_stroked (pixels : Pixels) (stroke : Stroke) :
    stroked (stroked pixels stroke) stroke = pixels := by
  refine ext_cells fun cell => ?_
  simp only [stroked, pixels_draw]
  split
  · exact turn_turn _
  · rfl

/-- Sprites leave the same picture in every order. -/
theorem pixels_paintAll_of_perm {strokes others : List Stroke} (reordered : strokes.Perm others)
    (screen : Screen) : (screen.paintAll strokes).pixels = (screen.paintAll others).pixels := by
  rw [pixels_paintAll, pixels_paintAll]
  exact reordered.foldl_eq' (fun first _ second _ pixels => stroked_comm pixels first second) _

/-- Sprites each of which is painted an even number of times leave the picture as it was. -/
theorem pixels_paintAll_of_even {strokes : List Stroke}
    (even : ∀ stroke, strokes.count stroke % 2 = 0) (screen : Screen) :
    (screen.paintAll strokes).pixels = screen.pixels := by
  rw [pixels_paintAll]
  exact foldl_of_even stroked_comm stroked_stroked even screen.pixels

/-- A sprite of at most thirty-two rows collides exactly when one of its set bits strikes a pixel
that is on. -/
theorem collided_draw_iff (pixels : Pixels) {x y : UInt8} {sprite : List UInt8}
    (short : sprite.length ≤ 32) :
    (draw pixels (points x.toNat y.toNat sprite)).collided = true ↔
      ∃ bit ∈ setBits sprite, pixels.get (target x y bit) = 1 := by
  have once (cell : Fin 2048) := Sprite.hits_points_le_one x.toNat y.toNat short cell
  rw [collided_draw]
  constructor
  · rintro ⟨cell, ⟨on, hit⟩ | ⟨_, again⟩⟩
    · obtain ⟨bit, lit, rfl⟩ := Sprite.hits_points_pos_iff.1 hit
      exact ⟨bit, lit, on⟩
    · have single := once cell
      omega
  · rintro ⟨bit, lit, on⟩
    exact ⟨target x y bit, .inl ⟨on, Sprite.hits_points_pos_iff.2 ⟨bit, lit, rfl⟩⟩⟩

/-- A sprite of at most thirty-two rows turns over every pixel that one of its set bits strikes. -/
theorem get_stroked_target (pixels : Pixels) {x y : UInt8} {sprite : List UInt8}
    (short : sprite.length ≤ 32) {bit : Nat × Nat} (lit : bit ∈ setBits sprite) :
    (stroked pixels ⟨x, y, sprite⟩).get (target x y bit) = pixels.get (target x y bit) ^^^ 1 := by
  have once := Sprite.hits_points_le_one x.toNat y.toNat short (target x y bit)
  have hit : 0 < hits (points x.toNat y.toNat sprite) (target x y bit) :=
    Sprite.hits_points_pos_iff.2 ⟨bit, lit, rfl⟩
  have odd : hits (points x.toNat y.toNat sprite) (target x y bit) % 2 = 1 := by omega
  rw [stroked, pixels_draw, if_pos odd]

/-- A pixel that is turned over is on exactly when it was off. -/
theorem turned_on_iff (pixel : UInt8) : pixel ^^^ 1 = 1 ↔ pixel = 0 := by
  constructor
  · intro on
    calc pixel
      _ = pixel ^^^ 1 ^^^ 1 := (turn_turn pixel).symm
      _ = 1 ^^^ 1 := by rw [on]
      _ = 0 := by decide
  · rintro rfl
    decide

/-- Every pixel is off or on. -/
def Binary (screen : Screen) : Prop :=
  ∀ cell, screen.pixels.get cell = 0 ∨ screen.pixels.get cell = 1

/-- A blank picture is off everywhere. -/
theorem binary_of_blank {screen : Screen} (blank : screen.pixels = blankPixels) :
    screen.Binary := by
  intro cell
  rw [blank]
  exact .inl (get_replicate_cell 0 cell)

/-- Painting a sprite leaves every pixel off or on. -/
theorem Binary.paint {screen : Screen} (binary : screen.Binary) (x y : UInt8)
    (sprite : List UInt8) : (screen.paint x y sprite).2.Binary := by
  intro cell
  have painted : (screen.paint x y sprite).2.pixels.get cell = _ :=
    pixels_draw screen.pixels (points x.toNat y.toNat sprite) cell
  rw [painted]
  rcases binary cell with off | on
  · rw [off]
    split <;> decide
  · rw [on]
    split <;> decide

end Screen

namespace Registers

/-- The flag is read from the register that holds it. -/
theorem get_setFlag (v : Registers) (flag : Bool) :
    (v.setFlag flag).get 0xF = if flag then 1 else 0 := by
  rw [setFlag, get_set]
  exact if_pos rfl

/-- The flag does not touch any other register. -/
theorem get_setFlag_of_plain {x : UInt8} (plain : x &&& 0xF ≠ 0xF) (v : Registers) (flag : Bool) :
    (v.setFlag flag).get x = v.get x := by
  have apart : slot flagRegister ≠ slot x := by
    intro same
    exact plain (UInt8.toNat_inj.1 (Fin.mk.inj same)).symm
  rw [setFlag, get_set, if_neg apart]

end Registers

namespace Machine

open Screen (Stroke stroked)
open Sprite (setBits target)

variable {machine : Machine}

/-- Every instruction leaves the pixels off or on. -/
theorem binary_effect (binary : machine.screen.Binary) (ins : Instruction) :
    (machine.effect ins).screen.Binary := by
  by_cases draws : ins.Draws
  · cases ins with
    | clear => exact Screen.binary_of_blank rfl
    | draw x y height => exact binary.paint _ _ _
    | _ => exact draws.elim
  · rw [screen_effect draws]
    exact binary

/-- Every operation leaves the pixels off or on. -/
theorem binary_perform (binary : machine.screen.Binary) (operation : Operation) :
    (machine.perform operation).2.screen.Binary := by
  by_cases keeps : operation.KeepsProgram
  · cases done : (machine.perform operation).1.executed? with
    | some ins =>
      rw [perform_of_executed done]
      exact binary_effect binary ins
    | none =>
      intro cell
      rw [(unmoved_perform keeps done).pixels]
      exact binary cell
  · obtain ⟨memory, restarted⟩ := machine.perform_of_restart keeps
    rw [restarted]
    exact Screen.binary_of_blank rfl

/-- However a new machine is used, its pixels are off or on. -/
theorem binary_performAll (shift : ShiftOperand) (random : Generator) (history : List Operation) :
    ((fresh shift random).performAll history).screen.Binary :=
  performAll_keeps (fun machine => machine.screen.Binary) (Screen.binary_of_blank rfl)
    fun _ binary operation _ => binary_perform binary operation

/-- What a sprite that is drawn twice in a row leaves in the picture and in VF, by the set bits of
the sprite and the cells that they strike. -/
structure DrawnTwice (before once twice : Machine) (bits : Finset (Nat × Nat))
    (struck : Nat × Nat → Fin 2048) : Prop where
  /-- Every pixel is as it was. -/
  restored : twice.screen.pixels = before.screen.pixels
  /-- The first drawing tells that a set bit strikes a pixel that is on. -/
  first : once.value 0xF = 1 ↔ ∃ bit ∈ bits, before.screen.pixels.get (struck bit) = 1
  /-- The second tells that a set bit strikes a pixel that was off. -/
  second : twice.value 0xF = 1 ↔ ∃ bit ∈ bits, before.screen.pixels.get (struck bit) = 0
  /-- One of the two tells a collision, unless no bit is set. -/
  either : before.screen.Binary → bits.Nonempty → once.value 0xF = 1 ∨ twice.value 0xF = 1

/-- A sprite of at most thirty-two rows is read in as many rows. -/
theorem length_readIndexed_le (machine : Machine) {height : UInt8} (short : height ≤ 32) :
    (machine.readIndexed height.toNat).length ≤ 32 := by
  rw [readIndexed, Memory.length_read]
  exact UInt8.le_iff_toNat_le.1 short

/-- A drawing tells in VF whether a set bit of its sprite strikes a pixel that is on. -/
theorem value_flag_draw (machine : Machine) {height : UInt8} (short : height ≤ 32) (x y : UInt8) :
    (machine.effect (.draw x y height)).value 0xF = 1 ↔
      ∃ bit ∈ setBits (machine.readIndexed height.toNat),
        machine.screen.pixels.get (target (machine.value x) (machine.value y) bit) = 1 := by
  have rows := machine.length_readIndexed_le short
  have flag : (machine.effect (.draw x y height)).value 0xF = _ :=
    Registers.get_setFlag machine.registers _
  rw [flag, ← Screen.collided_draw_iff _ rows]
  show (if (Screen.draw _ _).collided then (1 : UInt8) else 0) = 1 ↔ _
  split
  · rename_i collided
    exact iff_of_true rfl collided
  · rename_i missed
    exact iff_of_false (by decide) missed

/-- Drawing a sprite of at most thirty-two rows twice in a row, at a position that is not taken from
VF, restores the picture, and the two drawings tell of the pixels that were on and off. -/
theorem drawnTwice (machine : Machine) {x y height : UInt8} (short : height ≤ 32)
    (plainX : x &&& 0xF ≠ 0xF) (plainY : y &&& 0xF ≠ 0xF) :
    let once := (machine.execute (.draw x y height)).machine
    let twice := (once.execute (.draw x y height)).machine
    DrawnTwice machine once twice (setBits (machine.readIndexed height.toNat))
      (target (machine.value x) (machine.value y)) := by
  intro once twice
  have sameX : once.value x = machine.value x := Registers.get_setFlag_of_plain plainX _ _
  have sameY : once.value y = machine.value y := Registers.get_setFlag_of_plain plainY _ _
  have sameSprite : once.readIndexed height.toNat = machine.readIndexed height.toNat := rfl
  have rows := machine.length_readIndexed_le short
  let stroke : Stroke := ⟨machine.value x, machine.value y, machine.readIndexed height.toNat⟩
  have drawn : once.screen.pixels = stroked machine.screen.pixels stroke := rfl
  have redrawn : twice.screen.pixels =
      stroked once.screen.pixels ⟨once.value x, once.value y, once.readIndexed height.toNat⟩ := rfl
  have first := machine.value_flag_draw short x y
  have second : twice.value 0xF = 1 ↔ ∃ bit ∈ setBits (machine.readIndexed height.toNat),
      machine.screen.pixels.get (target (machine.value x) (machine.value y) bit) = 0 := by
    refine (once.value_flag_draw short x y).trans ?_
    rw [sameX, sameY, sameSprite, drawn]
    refine exists_congr fun bit => and_congr_right fun lit => ?_
    rw [Screen.get_stroked_target _ rows lit, Screen.turned_on_iff]
  refine ⟨?_, first, second, fun binary ⟨bit, lit⟩ => ?_⟩
  · rw [redrawn, sameX, sameY, sameSprite, drawn]
    exact Screen.stroked_stroked _ _
  · rcases binary (target (machine.value x) (machine.value y) bit) with off | on
    · exact .inr (second.2 ⟨bit, lit, off⟩)
    · exact .inl (first.2 ⟨bit, lit, on⟩)

/-- **Drawing cancels.** A sprite of at most thirty-two rows that is drawn twice in a row, at a
position that is not taken from VF, leaves the picture as it was; the first drawing tells that a set
bit strikes a pixel that is on and the second that one strikes a pixel that was off, so one of them
tells a collision unless no bit is set, as the pixels of a machine are off or on. Sprites of any
length, painted anywhere, leave the same picture in every order, and leave the picture as it was if
each of them is painted an even number of times. -/
theorem drawing_cancels (machine : Machine) {x y height : UInt8} (short : height ≤ 32)
    (plainX : x &&& 0xF ≠ 0xF) (plainY : y &&& 0xF ≠ 0xF) :
    let once := (machine.execute (.draw x y height)).machine
    let twice := (once.execute (.draw x y height)).machine
    DrawnTwice machine once twice (setBits (machine.readIndexed height.toNat))
        (target (machine.value x) (machine.value y)) ∧
      (∀ shift random history, ((fresh shift random).performAll history).screen.Binary) ∧
      (∀ (screen : Screen) (strokes others : List Stroke), strokes.Perm others →
        (screen.paintAll strokes).pixels = (screen.paintAll others).pixels) ∧
      ∀ (screen : Screen) (strokes : List Stroke), (∀ stroke, strokes.count stroke % 2 = 0) →
        (screen.paintAll strokes).pixels = screen.pixels :=
  ⟨machine.drawnTwice short plainX plainY, binary_performAll,
    fun screen _ _ reordered => Screen.pixels_paintAll_of_perm reordered screen,
    fun screen _ even => Screen.pixels_paintAll_of_even even screen⟩

/-- A machine that has drawn the upper two rows of a digit across the corner of the screen, where the
rows that follow continue at the top. -/
def smudged : Machine :=
  initial.performAll
    [.execute (.setByte 1 60), .execute (.setByte 2 30), .execute (.draw 1 2 2)]

/-- The whole digit, drawn twice over its upper two rows, strikes pixels that are on and pixels that
are off, so both drawings tell a collision, and the picture is restored; two sprites that overlap
leave the same picture in either order, and painted in turns cancel. -/
theorem drawing_cancels_smudged :
    let once := (smudged.execute (.draw 1 2 5)).machine
    let twice := (once.execute (.draw 1 2 5)).machine
    let long : Stroke := ⟨62, 31, List.replicate 40 0xFF⟩
    let dot : Stroke := ⟨63, 31, [0x80]⟩
    once.value 0xF = 1 ∧ twice.value 0xF = 1 ∧
      twice.screen.pixels = smudged.screen.pixels ∧ smudged.screen.Binary ∧
      (Screen.blank.paintAll [long, dot]).pixels = (Screen.blank.paintAll [dot, long]).pixels ∧
      (Screen.blank.paintAll [long, dot, long, dot]).pixels = Screen.blank.pixels := by
  intro once twice long dot
  have short : (5 : UInt8) ≤ 32 := by decide
  have plainX : (1 : UInt8) &&& 0xF ≠ 0xF := by decide
  have plainY : (2 : UInt8) &&& 0xF ≠ 0xF := by decide
  obtain ⟨drawn, binary, ordered, cancelled⟩ := drawing_cancels smudged short plainX plainY
  have swapped : [long, dot].Perm [dot, long] := .swap dot long []
  have even (stroke : Stroke) : [long, dot, long, dot].count stroke % 2 = 0 := by
    simp only [List.count_cons, List.count_nil]
    omega
  exact ⟨drawn.first.2 ⟨(0, 0), by decide +kernel, by decide +kernel⟩,
    drawn.second.2 ⟨(2, 0), by decide +kernel, by decide +kernel⟩, drawn.restored,
    binary .vx Generator.zero _, ordered _ _ _ swapped, cancelled _ _ even⟩

end Machine

end Chip8
