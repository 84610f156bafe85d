import Chip8.Proofs.Blocks
import Chip8.Proofs.Drawing
import Chip8.Proofs.Table

/-!
# Steps follow the table

A step of a running machine is exactly what the table of instructions prescribes for the word
at the program counter (`step?_follows_table`). The changes that rows are made of are first
proved equal to the operations of the machine; each row is then the effect of its instruction
(`effect_of_row`), and every instruction has a row (`row_exists`).
-/
namespace Chip8

namespace Arithmetic

/-- A sum reduces modulo 256 and carries above 255. -/
theorem sum_eq (a b : UInt8) :
    sum a b =
      ⟨UInt8.ofNat ((a.toNat + b.toNat) % 256), decide (255 < a.toNat + b.toNat)⟩ := by
  have value : a + b = UInt8.ofNat ((a.toNat + b.toNat) % 256) := by
    apply UInt8.toNat_inj.1
    rw [UInt8.toNat_add, UInt8.toNat_ofNat']
    omega
  have carry : 256 ≤ a.toNat + b.toNat ↔ 255 < a.toNat + b.toNat := Iff.rfl
  simp only [sum, value, carry]

/-- A difference reduces modulo 256 and borrows when the subtrahend is larger. -/
theorem difference_eq (a b : UInt8) :
    difference a b =
      ⟨UInt8.ofNat ((a.toNat + 256 - b.toNat) % 256), decide (¬a.toNat < b.toNat)⟩ := by
  have small := b.toNat_lt
  have value : a - b = UInt8.ofNat ((a.toNat + 256 - b.toNat) % 256) := by
    apply UInt8.toNat_inj.1
    rw [UInt8.toNat_sub, UInt8.toNat_ofNat']
    omega
  have enough : b ≤ a ↔ ¬a.toNat < b.toNat := by
    rw [UInt8.le_iff_toNat_le]
    omega
  simp only [difference, value, enough]

/-- The lowest bit of a byte tells whether it is odd. -/
theorem lowBit_eq (a : UInt8) : (a &&& 1 == 1) = decide (a.toNat % 2 = 1) := by
  have bit : (a &&& 1).toNat = a.toNat % 2 := by
    rw [UInt8.toNat_and]
    exact Nat.and_two_pow_sub_one_eq_mod a.toNat 1
  rw [Bool.eq_iff_iff, beq_iff_eq, decide_eq_true_eq, ← UInt8.toNat_inj, bit]
  rfl

/-- Halving divides by two and tells whether the byte was odd. -/
theorem halve_eq (a : UInt8) :
    halve a = ⟨UInt8.ofNat (a.toNat / 2), decide (a.toNat % 2 = 1)⟩ := by
  have small := a.toNat_lt
  have value : a >>> 1 = UInt8.ofNat (a.toNat / 2) := by
    apply UInt8.toNat_inj.1
    rw [UInt8.toNat_shiftRight, UInt8.toNat_ofNat', UInt8.toNat_one, Nat.shiftRight_eq_div_pow,
      show 2 ^ (1 % 8) = 2 from rfl]
    omega
  rw [halve, value, lowBit_eq]

/-- Doubling reduces modulo 256 and tells whether the byte was 128 or more. -/
theorem double_eq (a : UInt8) :
    double a = ⟨UInt8.ofNat (a.toNat * 2 % 256), decide (128 ≤ a.toNat)⟩ := by
  have small := a.toNat_lt
  have value : a <<< 1 = UInt8.ofNat (a.toNat * 2 % 256) := by
    apply UInt8.toNat_inj.1
    rw [UInt8.toNat_shiftLeft, UInt8.toNat_ofNat', UInt8.toNat_one, Nat.shiftLeft_eq,
      show 2 ^ (1 % 8) = 2 from rfl]
    omega
  have high : (a >>> 7).toNat = a.toNat / 128 := by
    rw [UInt8.toNat_shiftRight, Nat.shiftRight_eq_div_pow]
    rfl
  have flag : decide ((a >>> 7).toNat % 2 = 1) = decide (128 ≤ a.toNat) := by
    rw [high, decide_eq_decide]
    omega
  rw [double, value, lowBit_eq, flag]

end Arithmetic

namespace Table

variable {machine : Machine}

/-- The word of the table is the word that is fetched. -/
theorem word_eq_fetch (machine : Machine) : word machine = machine.fetch := by
  have wraps : (machine.pc.toNat + 1) % 65536 % 4096 = (machine.pc.toNat + 1) % 4096 := by omega
  simp only [word, Machine.fetch, Word.ofBytes, Memory.get, Fin.getElem_fin, Memory.val_slot,
    UInt16.toNat_add, UInt16.toNat_one, Nat.reducePow, wraps]

/-- Going on by some distance adds it to the program counter. -/
theorem advance_eq (machine : Machine) (distance : Nat) :
    advance machine distance = { machine with pc := machine.pc + UInt16.ofNat distance } := by
  have sum : UInt16.ofNat ((machine.pc.toNat + distance) % 65536) =
      machine.pc + UInt16.ofNat distance := by
    apply UInt16.toNat_inj.1
    rw [UInt16.toNat_add, UInt16.toNat_ofNat', UInt16.toNat_ofNat']
    omega
  rw [advance, sum]

/-- Going on by one word is moving to the next instruction. -/
theorem advance_two (machine : Machine) : advance machine 2 = machine.next :=
  advance_eq machine 2

/-- Skipping is passing over the next instruction if the condition holds, and then moving on. -/
theorem skip_eq (condition : Prop) [Decidable condition] :
    skip machine condition = (machine.skipIf (decide condition)).next := by
  by_cases holds : condition
  · have twice : machine.pc + UInt16.ofNat 4 = machine.pc + 2 + 2 := by
      rw [UInt16.add_assoc]
      rfl
    simp only [skip, holds, if_true, decide_true, Machine.skipIf, advance_eq, twice, Machine.next]
  · simp only [skip, holds, if_false, decide_false, Machine.skipIf, Bool.false_eq_true,
      advance_two]

/-- Putting a number into a register is assigning it. -/
theorem put_eq {x : UInt8} (fits : x.toNat < 16) (value : Nat) :
    put machine x value = machine.assign x (UInt8.ofNat value) := by
  have same : (⟨Vector.ofFn fun k : Fin 16 =>
      if k.val = x.toNat then UInt8.ofNat value else machine.registers.cells.get k⟩ : Registers) =
      machine.registers.set x (UInt8.ofNat value) := by
    apply Registers.ext_registers
    intro cell
    rw [Registers.cells_set, Nat.mod_eq_of_lt fits]
    simp only [get_ofFn_cell, @eq_comm _ x.toNat cell.val]
  rw [put, same, Machine.assign]

/-- Putting a flag into VF is setting the flag. -/
theorem putFlag_eq (condition : Prop) [Decidable condition] :
    putFlag machine condition =
      { machine with registers := machine.registers.setFlag (decide condition) } := by
  rw [putFlag, put_eq (by decide)]
  by_cases holds : condition
  · simp only [holds, if_true, decide_true]
    rfl
  · simp only [holds, if_false, decide_false]
    rfl

/-- Putting a result and its flag is writing the flag first and the result second. -/
theorem putFlagged_eq {x : UInt8} (fits : x.toNat < 16) (value : Nat) (condition : Prop)
    [Decidable condition] :
    putFlagged machine x value condition =
      machine.assignFlagged x ⟨UInt8.ofNat value, decide condition⟩ := by
  have same : (⟨Vector.ofFn fun k : Fin 16 =>
      if k.val = x.toNat then UInt8.ofNat value
      else if k.val = 15 then (if condition then 1 else 0)
      else machine.registers.cells.get k⟩ : Registers) =
      machine.registers.setFlagged x ⟨UInt8.ofNat value, decide condition⟩ := by
    apply Registers.ext_registers
    intro cell
    have flag : Registers.flagRegister.toNat % 16 = 15 := rfl
    rw [Registers.setFlagged, Registers.cells_set, Nat.mod_eq_of_lt fits, Registers.setFlag,
      Registers.cells_set, flag]
    simp only [get_ofFn_cell, decide_eq_true_eq,
      @eq_comm _ x.toNat cell.val, @eq_comm _ 15 cell.val]
  rw [putFlagged, same, Machine.assignFlagged]

/-- Pointing reduces an address modulo 65536. -/
theorem point_eq (address : Nat) :
    point machine address = { machine with index := UInt16.ofNat address } := by
  have reduced : UInt16.ofNat (address % 65536) = UInt16.ofNat address := by
    apply UInt16.toNat_inj.1
    rw [UInt16.toNat_ofNat', UInt16.toNat_ofNat']
    omega
  rw [point, reduced]

/-- The byte at a distance past the index is read from memory. -/
theorem byteAt_eq (machine : Machine) (distance : Nat) :
    byteAt machine distance =
      (machine.memory.get (machine.index + UInt16.ofNat distance)).toNat := by
  simp only [byteAt, Memory.get, Fin.getElem_fin, Memory.slot_add]

/-- Collecting registers is loading them from memory. -/
theorem collect_eq {x : UInt8} (fits : x.toNat < 16) :
    collect machine (x.toNat + 1) =
      { machine with
        registers := machine.registers.loadFrom machine.memory machine.index x } := by
  have same : (⟨Vector.ofFn fun k : Fin 16 =>
      if k.val < x.toNat + 1 then UInt8.ofNat (byteAt machine k)
      else machine.registers.cells.get k⟩ : Registers) =
      machine.registers.loadFrom machine.memory machine.index x := by
    apply Registers.ext_registers
    intro cell
    have round : cell.val + 16 * ((x.toNat - cell) / 16) = cell := by omega
    rw [Registers.cells_loadFrom, round]
    simp only [get_ofFn_cell, byteAt_eq, UInt8.ofNat_toNat,
      Nat.lt_succ_iff]
  rw [collect, same]

/-- A cell of a deposit holds the number of its distance from the index. -/
theorem cells_deposit (count : Nat) (value : Nat → Nat) (cell : Fin 4096) :
    (deposit machine count value).memory.cells.get cell =
      if Memory.distance machine.index cell < count then
        UInt8.ofNat (value (Memory.distance machine.index cell))
      else machine.memory.cells.get cell := by
  rw [deposit, get_ofFn_cell]
  rfl

/-- Depositing registers is storing them to memory. -/
theorem deposit_registers (x : UInt8) :
    deposit machine (x.toNat + 1) (fun k => v machine (UInt8.ofNat k)) =
      { machine with
        memory := machine.memory.storeFrom machine.registers machine.index x } := by
  have same : (deposit machine (x.toNat + 1) fun k => v machine (UInt8.ofNat k)).memory =
      machine.memory.storeFrom machine.registers machine.index x := by
    apply Memory.ext_memory
    intro cell
    rw [cells_deposit, Memory.cells_storeFrom]
    simp only [v, UInt8.ofNat_toNat, Nat.lt_succ_iff]
  rw [← same]
  rfl

/-- Depositing three digits is writing them to memory. -/
theorem deposit_digits (x : UInt8) :
    deposit machine 3 (fun k => digit k (v machine x)) =
      { machine with
        memory := machine.memory.write machine.index
          (Arithmetic.decimalDigits (machine.value x)) } := by
  have same : (deposit machine 3 fun k => digit k (v machine x)).memory =
      machine.memory.write machine.index (Arithmetic.decimalDigits (machine.value x)) := by
    apply Memory.ext_memory
    intro cell
    rw [cells_deposit, Memory.cells_write _ _ _ (by simp [Arithmetic.decimalDigits])]
    generalize Memory.distance machine.index cell = distance
    have small := (machine.value x).toNat_lt
    match distance with
    | 0 =>
      have hundreds : UInt8.ofNat ((machine.value x).toNat / 100 % 10) = machine.value x / 100 := by
        apply UInt8.toNat_inj.1
        rw [UInt8.toNat_ofNat', UInt8.toNat_div]
        simp only [UInt8.reduceToNat]
        omega
      exact hundreds
    | 1 =>
      have tens : UInt8.ofNat ((machine.value x).toNat / 10 % 10) =
          machine.value x / 10 % 10 := by
        apply UInt8.toNat_inj.1
        rw [UInt8.toNat_ofNat', UInt8.toNat_mod, UInt8.toNat_div]
        simp only [UInt8.reduceToNat]
        omega
      exact tens
    | 2 =>
      have ones : UInt8.ofNat ((machine.value x).toNat % 10) = machine.value x % 10 := by
        apply UInt8.toNat_inj.1
        rw [UInt8.toNat_ofNat', UInt8.toNat_mod]
        simp only [UInt8.reduceToNat]
        omega
      exact ones
    | distance + 3 =>
      rw [if_neg (by omega)]
      rfl
  rw [← same]
  rfl

/-- The points that the sprite of a drawing instruction lights. -/
def litPoints (machine : Machine) (x y height : UInt8) : List Point :=
  Sprite.points (machine.value x).toNat (machine.value y).toNat
    (machine.readIndexed height.toNat)

/-- A cell is lit exactly when some point of the sprite hits it. -/
theorem lit_iff {x y height : UInt8} {cell : Fin 2048} :
    Lit machine x y height cell ↔ 0 < hits (litPoints machine x y height) cell := by
  rw [hits_pos_iff]
  simp only [litPoints, Sprite.mem_points, Machine.readIndexed, Memory.getElem?_read]
  constructor
  · rintro ⟨row, below, column, inside, bit, falls⟩
    refine ⟨_, ⟨row, _, if_pos below, column, inside, ?_, rfl⟩, Fin.ext falls⟩
    rwa [byteAt_eq] at bit
  · rintro ⟨_, ⟨row, byte, found, column, inside, bit, rfl⟩, falls⟩
    split at found
    · rename_i below
      obtain rfl := Option.some.inj found
      refine ⟨row, below, column, inside, ?_, congrArg Fin.val falls⟩
      rwa [byteAt_eq]
    · cases found

/-- A sprite of at most thirty-two rows hits exactly the cells that it lights, once each. -/
theorem hits_litPoints {x y height : UInt8} (short : height.toNat ≤ 32) (cell : Fin 2048) :
    hits (litPoints machine x y height) cell = if Lit machine x y height cell then 1 else 0 := by
  have rows : (machine.readIndexed height.toNat).length ≤ 32 := by
    rw [Machine.readIndexed, Memory.length_read]
    exact short
  have once := Sprite.hits_points_le_one (machine.value x).toNat (machine.value y).toNat rows cell
  by_cases lit : Lit machine x y height cell
  · have hit := lit_iff.1 lit
    rw [if_pos lit]
    exact Nat.le_antisymm once hit
  · rw [if_neg lit]
    exact Nat.eq_zero_of_not_pos fun hit => lit (lit_iff.2 hit)

/-- Turning the lit cells over is drawing the sprite. -/
theorem paint_eq {x y height : UInt8} (short : height.toNat ≤ 32) :
    paint machine x y height =
      { machine with
        screen := (machine.screen.paint (machine.value x) (machine.value y)
          (machine.readIndexed height.toNat)).2 } := by
  have same : (Vector.ofFn fun cell : Fin 2048 =>
      if Lit machine x y height cell then machine.screen.pixels.get cell ^^^ 1
      else machine.screen.pixels.get cell) =
      (Screen.draw machine.screen.pixels (litPoints machine x y height)).pixels := by
    refine ext_cells fun cell => ?_
    rw [get_ofFn_cell, Screen.pixels_draw, hits_litPoints short]
    by_cases lit : Lit machine x y height cell
    · simp only [lit, if_true, Nat.mod_succ]
    · simp only [lit, if_false, Nat.zero_mod, Nat.zero_ne_one]
  rw [paint, same]
  rfl

/-- A lit cell is on exactly when drawing the sprite reports a collision. -/
theorem collides_iff {x y height : UInt8} (short : height.toNat ≤ 32) :
    Collides machine x y height ↔
      (machine.screen.paint (machine.value x) (machine.value y)
        (machine.readIndexed height.toNat)).1 = true := by
  have reported := Screen.collided_draw machine.screen.pixels (litPoints machine x y height)
  refine Iff.trans ?_ reported.symm
  refine exists_congr fun cell => ?_
  rw [hits_litPoints short, Screen.Struck]
  by_cases lit : Lit machine x y height cell
  · simp only [lit, true_and, if_true, Nat.le_refl, and_true, Nat.not_succ_le_self, and_false,
      or_false]
  · simp only [lit, false_and, if_false, false_iff]
    rintro (⟨_, hit⟩ | ⟨_, hit⟩)
    · omega
    · omega

/-- The byte that a shift works on is the operand of the shift. -/
theorem shifted_eq (x y : UInt8) : shifted machine x y = (machine.shiftOperand x y).toNat := by
  unfold shifted Machine.shiftOperand
  cases machine.shift <;> rfl

/-- Bytes are compared as numbers. -/
theorem beq_eq_decide (a b : UInt8) : (a == b) = decide (a.toNat = b.toNat) := by
  rw [Bool.eq_iff_iff, beq_iff_eq, decide_eq_true_eq, UInt8.toNat_inj]

/-- Bytes are told apart as numbers. -/
theorem bne_eq_decide (a b : UInt8) : (a != b) = decide (a.toNat ≠ b.toNat) := by
  rw [bne, beq_eq_decide, decide_not]

/-- A key is looked up by the low digit of its number. -/
theorem held_eq (keys : Keypad) (key : UInt8) : keys.held key = keys.keys[key.toNat % 16] := rfl

/-- The number of a byte sum is the sum modulo 256. -/
theorem ofNat_sum (a b : UInt8) : UInt8.ofNat ((a.toNat + b.toNat) % 256) = a + b := by
  apply UInt8.toNat_inj.1
  rw [UInt8.toNat_add, UInt8.toNat_ofNat']
  omega

/-- The index moves behind the registers that were stored or loaded. -/
theorem index_behind (index : UInt16) (x : UInt8) :
    UInt16.ofNat (index.toNat + (x.toNat + 1)) = index + (x.toUInt16 + 1) := by
  apply UInt16.toNat_inj.1
  rw [UInt16.toNat_add, UInt16.toNat_add, UInt16.toNat_ofNat', UInt8.toNat_toUInt16,
    UInt16.toNat_one]
  omega

/-- The row of an instruction is its effect on a running machine. -/
theorem effect_of_row {ins : Instruction} {after : Machine} (running : machine.status = .running)
    (fits : ins.Encodable) (row : Row machine ins after) : machine.effect ins = after := by
  cases row with
  | clear | ret | setIndex target => exact (advance_two _).symm
  | jump target => rfl
  | call target =>
    have slots : (Vector.ofFn fun k : Fin 16 =>
        if k = machine.stack.pointer then machine.pc else machine.stack.slots.get k) =
        machine.stack.slots.set machine.stack.pointer machine.pc
          machine.stack.pointer.isLt := by
      refine ext_cells fun cell => ?_
      rw [get_ofFn_cell, get_set_cell]
      simp only [@eq_comm _ cell]
    rw [slots]
    rfl
  | skipIfByte x value => rw [skip_eq, Machine.effect, beq_eq_decide, v, Machine.value]
  | skipUnlessByte x value => rw [skip_eq, Machine.effect, bne_eq_decide, v, Machine.value]
  | skipIfSame x y =>
    rw [skip_eq, Machine.effect, beq_eq_decide, v, v, Machine.value, Machine.value]
  | skipUnlessSame x y =>
    rw [skip_eq, Machine.effect, bne_eq_decide, v, v, Machine.value, Machine.value]
  | setByte x value => rw [advance_two, put_eq fits, UInt8.ofNat_toNat, Machine.effect]
  | addByte x value => rw [advance_two, put_eq fits, v, ofNat_sum, Machine.effect, Machine.value]
  | copy x y => rw [advance_two, put_eq fits.1, v, UInt8.ofNat_toNat, Machine.effect, Machine.value]
  | or x y =>
    rw [advance_two, put_eq fits.1, v, v, ← UInt8.toNat_or, UInt8.ofNat_toNat]
    rfl
  | and x y =>
    rw [advance_two, put_eq fits.1, v, v, ← UInt8.toNat_and, UInt8.ofNat_toNat]
    rfl
  | xor x y =>
    rw [advance_two, put_eq fits.1, v, v, ← UInt8.toNat_xor, UInt8.ofNat_toNat]
    rfl
  | add x y =>
    rw [advance_two, putFlagged_eq fits.1, Machine.effect, Arithmetic.sum_eq]
    rfl
  | subtract x y =>
    rw [advance_two, putFlagged_eq fits.1, Machine.effect, Arithmetic.difference_eq]
    rfl
  | subtractFrom x y =>
    rw [advance_two, putFlagged_eq fits.1, Machine.effect, Arithmetic.difference_eq]
    rfl
  | shiftRight x y =>
    rw [advance_two, putFlagged_eq fits.1, Machine.effect, Arithmetic.halve_eq, shifted_eq]
  | shiftLeft x y =>
    rw [advance_two, putFlagged_eq fits.1, Machine.effect, Arithmetic.double_eq, shifted_eq]
  | jumpOffset base =>
    have target : UInt16.ofNat (base.toNat + v machine 0) = base + (machine.value 0).toUInt16 := by
      apply UInt16.toNat_inj.1
      rw [UInt16.toNat_add, UInt16.toNat_ofNat', UInt8.toNat_toUInt16]
      rfl
    rw [target, Machine.effect]
  | random x mask =>
    rw [advance_two, put_eq fits, ← UInt8.toNat_and, UInt8.ofNat_toNat, UInt8.and_comm]
    rfl
  | draw x y height =>
    have short : height.toNat ≤ 32 := by
      have digit := fits.2.2
      omega
    have flag : decide (Collides machine x y height) =
        (machine.screen.paint (machine.value x) (machine.value y)
          (machine.readIndexed height.toNat)).1 := by
      rw [Bool.eq_iff_iff, decide_eq_true_eq]
      exact collides_iff short
    rw [advance_two, putFlag_eq, flag, paint_eq short]
    rfl
  | skipIfKey x =>
    rw [skip_eq, Machine.effect, held_eq, Bool.decide_eq_true]
    rfl
  | skipUnlessKey x =>
    rw [skip_eq, Machine.effect, held_eq, Bool.decide_eq_false]
    rfl
  | readDelay x => rw [advance_two, put_eq fits, UInt8.ofNat_toNat, Machine.effect]
  | awaitKey x key held lowest =>
    have first : machine.keys.first? = some (UInt8.ofNat key) :=
      Keypad.first?_eq_some_iff.2 ⟨key, rfl, held, lowest⟩
    rw [advance_two, put_eq fits]
    simp only [Machine.effect, first, Machine.acceptKey, Machine.assign, Machine.next, running]
  | setDelay x | setSound x =>
    rw [advance_two, v, UInt8.ofNat_toNat]
    rfl
  | addIndex x =>
    have sum : UInt16.ofNat (machine.index.toNat + v machine x) =
        machine.index + (machine.value x).toUInt16 := by
      apply UInt16.toNat_inj.1
      rw [UInt16.toNat_add, UInt16.toNat_ofNat', UInt8.toNat_toUInt16]
      rfl
    rw [advance_two, putFlag_eq, point_eq, sum]
    rfl
  | pointGlyph x =>
    rw [advance_two, point_eq, Machine.effect, Font.start, Font.glyphBytes, Nat.zero_add]
    rfl
  | storeDecimal x => rw [advance_two, deposit_digits, Machine.effect]
  | storeRegisters x =>
    rw [advance_two, deposit_registers, point_eq, index_behind, Machine.effect]
  | loadRegisters x =>
    rw [advance_two, collect_eq fits, point_eq, index_behind, Machine.effect]

/-- An instruction that has a row is executed. -/
theorem outcome_of_row {ins : Instruction} {after : Machine} (row : Row machine ins after) :
    machine.outcome ins = .executed ins := by
  cases row with
  | awaitKey x key held lowest =>
    have first : machine.keys.first? = some (UInt8.ofNat key) :=
      Keypad.first?_eq_some_iff.2 ⟨key, rfl, held, lowest⟩
    simp only [Machine.outcome, first]
  | _ => rfl

/-- Every instruction has a row, but for a word that is none and for a wait with no key held. -/
theorem row_exists {ins : Instruction} (implemented : ∀ value, ins ≠ .unimplemented value)
    (held : ∀ x, ins = .awaitKey x → machine.keys.first? ≠ none) :
    ∃ after, Row machine ins after := by
  cases ins with
  | awaitKey x =>
    obtain ⟨key, first⟩ := Option.ne_none_iff_exists'.1 (held x rfl)
    obtain ⟨lowest, _, pressed, before⟩ := Keypad.first?_eq_some_iff.1 first
    exact ⟨_, .awaitKey x lowest pressed before⟩
  | unimplemented value => exact absurd rfl (implemented value)
  | _ => exact ⟨_, by constructor⟩

/-- What the table prescribes is what executing the next instruction brings about. -/
theorem execute_of_prescribed {outcome : Outcome} {after : Machine}
    (running : machine.status = .running) (prescribed : Prescribed machine outcome after) :
    machine.outcome machine.current = outcome ∧ machine.effect machine.current = after := by
  have fetched := word_eq_fetch machine
  cases prescribed with
  | executed written row =>
    rw [Machine.current, ← fetched, Instruction.decode_of_written written]
    exact ⟨outcome_of_row row, effect_of_row running written.1 row⟩
  | waiting written idle =>
    have nobody := Keypad.first?_eq_none_iff.2 idle
    rw [Machine.current, ← fetched, Instruction.decode_of_written written]
    simp only [Machine.outcome, Machine.effect, nobody, and_self]
  | faulted unwritten =>
    have nothing : Instruction.decode (word machine) = .unimplemented (word machine) :=
      Instruction.decode_eq_unimplemented_iff.2 ⟨rfl, unwritten⟩
    rw [Machine.current, ← fetched, nothing]
    exact ⟨rfl, rfl⟩

/-- The table prescribes something for every machine. -/
theorem prescribed_exists (machine : Machine) :
    ∃ outcome after, Prescribed machine outcome after := by
  rcases Instruction.written_decode (word machine) with written | nothing
  · by_cases waits : ∃ x, Instruction.decode (word machine) = .awaitKey x ∧
      machine.keys.first? = none
    · obtain ⟨x, same, nobody⟩ := waits
      rw [same] at written
      exact ⟨_, _, .waiting written (Keypad.first?_eq_none_iff.1 nobody)⟩
    · have implemented :
          ∀ value, Instruction.decode (word machine) ≠ .unimplemented value := by
        intro value same
        rw [same] at written
        exact Instruction.not_written_unimplemented _ _ written
      have rows : ∃ after, Row machine (Instruction.decode (word machine)) after :=
        row_exists implemented fun x same nobody => waits ⟨x, same, nobody⟩
      obtain ⟨after, row⟩ := rows
      exact ⟨_, after, .executed written row⟩
  · exact ⟨_, _, .faulted (Instruction.decode_eq_unimplemented_iff.1 nothing).2⟩

/-- **A step follows the table.** A step of a running machine meets no refusal, and its outcome
together with the machine that it leaves is the one thing that the table prescribes for the word
at the program counter. -/
theorem step?_follows_table (running : machine.status = .running) :
    ∃ turn, machine.step? = some turn ∧
      ∀ outcome after,
        Prescribed machine outcome after ↔ outcome = turn.outcome ∧ after = turn.machine := by
  have stepped : machine.step? = some (machine.execute machine.current) := by
    rw [Machine.step?_eq_step, Machine.step, running]
  refine ⟨machine.execute machine.current, stepped, fun outcome after => ?_⟩
  constructor
  · intro prescribed
    obtain ⟨outcomes, machines⟩ := execute_of_prescribed running prescribed
    exact ⟨outcomes.symm, machines.symm⟩
  · rintro ⟨rfl, rfl⟩
    obtain ⟨expected, left, prescribed⟩ := prescribed_exists machine
    obtain ⟨rfl, rfl⟩ := execute_of_prescribed running prescribed
    exact prescribed

/-- A machine whose next word, 8FF4, lies across the end of memory and adds VF to itself. -/
def across : Machine :=
  { Machine.initial with
    pc := 0xFFF
    registers := Registers.zero.set 15 0xFF
    memory := (Memory.blank.set 0xFFF 0x8F).set 0 0xF4 }

/-- Adding VF to itself leaves the sum in VF, not the carry. -/
theorem step?_across :
    across.status = .running ∧
      ∃ turn, across.step? = some turn ∧ turn.outcome = .executed (.add 15 15) ∧
        turn.machine = (across.assign 15 0xFE).next := by
  have fetched : word across = 0x8FF4 := by
    rw [word_eq_fetch]
    simp only [Machine.fetch, across, Memory.get_set]
    decide
  have written : Instruction.Written (word across) (.add 15 15) :=
    Instruction.written_of_eq ⟨by decide, by decide⟩ fetched
  have left : advance (putFlagged across 15 ((v across 15 + v across 15) % 256)
      (255 < v across 15 + v across 15)) 2 = (across.assign 15 0xFE).next := by
    rw [advance_two, putFlagged_eq (by decide)]
    rfl
  obtain ⟨turn, stepped, exactly⟩ := @step?_follows_table across rfl
  obtain ⟨outcomes, machines⟩ := (exactly _ _).1 (.executed written (.add 15 15))
  rw [left] at machines
  exact ⟨rfl, turn, stepped, outcomes.symm, machines.symm⟩

end Table

end Chip8
