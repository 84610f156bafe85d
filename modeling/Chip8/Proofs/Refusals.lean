import Chip8.Proofs.Checks
import Chip8.Proofs.Conformance

/-!
# Which work is refused

Of all the checks that execution is subject to, a single one can fail: the target of a jump with
offset can pass the last address, and only for a base that no word has, because a decoded base has
twelve bits (`refused_iff_jumps_beyond`). Each piece of checked work has a law that equates it with
the work of the machine, under the bounds that its numbers keep; where the work can be refused the
law says when. Work that is put together from pieces is accepted because its pieces are, so a piece
that comes to compute its numbers differently needs its own law proved again and no other.
-/
namespace Chip8.Checked

/-- A sum that fits is accepted. -/
theorem sum_eq {size a b : Nat} (fits : a + b < size) : sum size a b = some (a + b) := if_pos fits

/-- A sum that does not fit is refused. -/
theorem sum_eq_none {size a b : Nat} (passes : size ≤ a + b) : sum size a b = none :=
  if_neg (Nat.not_lt.2 passes)

/-- A product that fits is accepted. -/
theorem product_eq {size a b : Nat} (fits : a * b < size) : product size a b = some (a * b) :=
  if_pos fits

/-- A difference that is no less than zero is accepted. -/
theorem difference_eq {a b : Nat} (enough : b ≤ a) : difference a b = some (a - b) :=
  if_pos enough

/-- A difference below zero is refused. -/
theorem difference_eq_none {a b : Nat} (below : a < b) : difference a b = none :=
  if_neg (Nat.not_le.2 below)

/-- A short shift to the left is accepted and reduced to the width. -/
theorem shiftLeft_eq {width value places : Nat} (short : places < width) :
    shiftLeft width value places = some ((value <<< places) % (1 <<< width)) := if_pos short

/-- A short shift to the right is accepted. -/
theorem shiftRight_eq {width value places : Nat} (short : places < width) :
    shiftRight width value places = some (value >>> places) := if_pos short

/-- A cell that exists is found. -/
theorem cell_eq {α : Type} {size : Nat} (cells : Vector α size) (position : Fin size) :
    cell cells position.val = some (cells.get position) :=
  Vector.getElem?_eq_getElem position.isLt

/-- A cell that exists takes a value. -/
theorem store_eq {α : Type} {size : Nat} (cells : Vector α size) (position : Fin size)
    (value : α) :
    store cells position.val value = some (cells.set position.val value position.isLt) :=
  dif_pos position.isLt

/-- A loop of which no round is refused is not refused. -/
theorem foldlM_eq {α β : Type} {items : List α} {round : β → α → Option β} {effect : β → α → β}
    (accepted : ∀ item ∈ items, ∀ state, round state item = some (effect state item))
    (state : β) : items.foldlM round state = some (items.foldl effect state) := by
  induction items generalizing state with
  | nil => rfl
  | cons item rest inductionHypothesis =>
    have first := accepted item List.mem_cons_self state
    have later := inductionHypothesis
      (fun other member => accepted other (List.mem_cons_of_mem item member)) (effect state item)
    rw [List.foldlM_cons, first, List.foldl_cons, ← later]
    rfl

/-- The mask of up to four digits has four bits for each. -/
theorem mask_eq {count : Nat} (short : count ≤ 4) :
    mask count = some (1 <<< (4 * count) - 1) := by
  match count, short with
  | 0, _ | 1, _ | 2, _ | 3, _ | 4, _ => rfl

/-- Digits are refused exactly when they do not lie within the word. -/
theorem digits_eq (word : UInt16) (start count : Nat) :
    digits word start count = Word.digits? word start count := by
  by_cases within : Word.Within start count
  · obtain ⟨short, first, reaches, proper⟩ := within
    have behind : 4 - count - (start - 1) = 5 - count - start := by omega
    have fits : (5 - count - start) * 4 < 0x100 := by omega
    have places : (5 - count - start) * 4 < 16 := by omega
    have quotient : 2 ^ ((5 - count - start) * 4) = 16 ^ (5 - count - start) := by
      rw [Nat.mul_comm, Nat.pow_mul]
    have modulus : 2 ^ (4 * count) = 16 ^ count := Nat.pow_mul 2 4 count
    rw [Word.digits?_of_within ⟨short, first, reaches, proper⟩]
    simp only [digits, difference_eq short, difference_eq first, difference_eq reaches, behind,
      product_eq fits, mask_eq short, shiftRight_eq places, Option.bind_eq_bind,
      Option.bind_some, Option.pure_def, Nat.shiftRight_eq_div_pow, Nat.one_shiftLeft,
      Nat.and_two_pow_sub_one_eq_mod, quotient, Nat.pow_eq]
    rw [modulus]
  · rw [Word.digits?_eq_none_iff.2 within]
    by_cases short : count ≤ 4
    · by_cases first : 1 ≤ start
      · by_cases reaches : start - 1 ≤ 4 - count
        · -- Only the empty run before the first digit is left, which is shifted too far.
          have empty : start = 1 ∧ count = 0 := by
            by_contra proper
            exact within ⟨short, first, reaches, proper⟩
          rw [empty.1, empty.2]
          rfl
        · simp only [digits, difference_eq short, difference_eq first,
            difference_eq_none (Nat.lt_of_not_le reaches), Option.bind_eq_bind,
            Option.bind_some, Option.bind_none]
      · simp only [digits, difference_eq short, difference_eq_none (Nat.lt_of_not_le first),
          Option.bind_eq_bind, Option.bind_some, Option.bind_none]
    · simp only [digits, difference_eq_none (Nat.lt_of_not_le short), Option.bind_eq_bind,
        Option.bind_none]

/-- Reads are refused exactly when they pass the fourth digit, or read nothing at the first. -/
theorem take_eq (count : Nat) : take count = Cursor.take count := by
  funext cursor
  by_cases fits : cursor.position + count ≤ 5
  · have small : cursor.position + count < 0x100 := by omega
    simp only [take, Cursor.take, sum_eq small, fits, digits_eq, if_true, Option.bind_eq_bind,
      Option.bind_some]
    cases Word.digits? cursor.word cursor.position count <;> rfl
  · have refused : Cursor.take count cursor = none := if_neg fits
    rw [refused, take]
    by_cases small : cursor.position + count < 0x100
    · simp only [sum_eq small, fits, if_false, Option.bind_eq_bind, Option.bind_some]
    · simp only [sum, small, if_false, Option.bind_eq_bind, Option.bind_none]

/-- Every byte names a register. -/
theorem value_eq (v : Registers) (x : UInt8) : value v x = some (v.get x) :=
  cell_eq v.cells (Registers.slot x)

/-- Every register takes a value. -/
theorem assign_eq (v : Registers) (x value : UInt8) : assign v x value = some (v.set x value) := by
  have stored : store v.cells (x &&& 0xF).toNat value = _ :=
    store_eq v.cells (Registers.slot x) value
  rw [assign, stored]
  rfl

/-- VF takes every flag. -/
theorem setFlag_eq (v : Registers) (flag : Bool) : setFlag v flag = some (v.setFlag flag) :=
  assign_eq v _ _

/-- Every register takes a result that has a flag. -/
theorem assignFlagged_eq (v : Registers) (x : UInt8) (result : Flagged) :
    assignFlagged v x result = some (v.setFlagged x result) := by
  rw [assignFlagged, setFlag_eq]
  exact assign_eq _ _ _

/-- No halving shifts too far. -/
theorem halve_eq (a : UInt8) : halve a = some (Arithmetic.halve a) := by
  rw [halve, shiftRight_eq (by decide), Arithmetic.halve_eq, Arithmetic.lowBit_eq]
  rfl

/-- No doubling shifts too far. -/
theorem double_eq (a : UInt8) : double a = some (Arithmetic.double a) := by
  have small := a.toNat_lt
  have top : (a.toNat / 2 ^ 7 % 2 == 1) = decide (128 ≤ a.toNat) := by
    rw [Bool.eq_iff_iff, beq_iff_eq, decide_eq_true_eq]
    omega
  rw [double, shiftRight_eq (by decide), shiftLeft_eq (by decide), Arithmetic.double_eq, ← top,
    Nat.shiftRight_eq_div_pow, Nat.shiftLeft_eq]
  rfl

/-- The low twelve bits of an address are its remainder. -/
theorem toNat_masked (address : UInt16) : (address &&& 0xFFF).toNat = (Memory.slot address).val := by
  rw [UInt16.toNat_and]
  exact Nat.and_two_pow_sub_one_eq_mod address.toNat 12

/-- Every address has a byte. -/
theorem byte_eq (memory : Memory) (address : UInt16) :
    byte memory address = some (memory.get address) := by
  rw [byte, toNat_masked]
  exact cell_eq memory.cells (Memory.slot address)

/-- Every address takes a byte. -/
theorem write_eq (memory : Memory) (address : UInt16) (byte : UInt8) :
    write memory address byte = some (memory.set address byte) := by
  rw [write, toNat_masked, store_eq]
  rfl

/-- Any number of bytes can be read from any address on. -/
theorem read_eq (memory : Memory) (address : UInt16) (count : Nat) :
    read memory address count = some (memory.read address count) := by
  have all : (List.range count).map (fun k => memory.get (address + UInt16.ofNat k)) =
      memory.read address count := by
    refine List.ext_getElem? fun position => ?_
    rw [Memory.getElem?_read, List.getElem?_map]
    by_cases inside : position < count
    · rw [List.getElem?_range inside, if_pos inside]
      rfl
    · rw [List.getElem?_eq_none (by simpa using inside), if_neg inside]
      rfl
  simp only [read, byte_eq, ← all]
  exact List.mapM_pure

/-- Bytes that are found are written one after the other from any address on. -/
theorem fill_eq {address : UInt16} {bytes : Nat → Option UInt8} {found : Nat → UInt8}
    {count : Nat} (memory : Memory) (all : ∀ k < count, bytes k = some (found k)) :
    fill memory address bytes count =
      some (memory.write address ((List.range count).map found)) := by
  have rounds : ∀ k ∈ List.range count, ∀ memory : Memory,
      (do write memory (address + UInt16.ofNat k) (← bytes k)) =
        some (memory.set (address + UInt16.ofNat k) (found k)) := by
    intro k member memory
    rw [all k (List.mem_range.1 member)]
    exact write_eq memory _ _
  rw [fill, foldlM_eq rounds, Option.some_inj]
  clear all rounds
  induction count with
  | zero => rfl
  | succ count inductionHypothesis =>
    rw [List.range_succ, List.foldl_append, inductionHypothesis, List.map_append, List.map_singleton,
      Memory.write_concat, List.length_map, List.length_range]
    rfl

/-- Any number of registers can be loaded from any address on. -/
theorem loadFrom_eq (v : Registers) (memory : Memory) (address : UInt16) (x : UInt8) :
    loadFrom v memory address x = some (v.loadFrom memory address x) := by
  refine foldlM_eq (fun k _ v => ?_) v
  rw [byte_eq]
  exact assign_eq v _ _

/-- A push finds its slot and counts on. -/
theorem push_eq (stack : Stack) (address : UInt16) :
    push stack address = some (stack.push address) := by
  have inside := stack.pointer.isLt
  have fits : stack.pointer.val + 1 < wide := Nat.lt_trans (Nat.succ_lt_succ inside) (by decide)
  have next : slot (stack.pointer.val + 1) = stack.pointer + 1 := by
    apply Fin.ext
    rw [Fin.val_add]
    rfl
  rw [push, store_eq, sum_eq fits]
  show some (⟨_, slot (stack.pointer.val + 1)⟩ : Stack) = _
  rw [next]
  rfl

/-- A pop counts back and finds its slot. -/
theorem pop_eq (stack : Stack) : pop stack = some (stack.top, stack.pop) := by
  have inside := stack.pointer.isLt
  have fits : stack.pointer.val + 16 < wide := Nat.lt_trans (Nat.add_lt_add_right inside _) (by decide)
  have enough : 1 ≤ stack.pointer.val + 16 := by omega
  have before : slot (stack.pointer.val + 16 - 1) = stack.pointer - 1 := by
    apply Fin.ext
    rw [Fin.sub_def]
    show (stack.pointer.val + 16 - 1) % 16 = (16 - 1 + stack.pointer.val) % 16
    omega
  simp only [pop, Stack.depth, sum_eq fits, difference_eq enough, before, cell_eq,
    Option.bind_eq_bind, Option.bind_some, Option.pure_def]
  rfl

/-- A key is looked up by the low digit of its number. -/
theorem toNat_key (key : UInt8) : (key &&& 0xF).toNat = (Keypad.slot key).val :=
  Registers.toNat_masked key

/-- Every byte names a key. -/
theorem held_eq (keypad : Keypad) (key : UInt8) : held keypad key = some (keypad.held key) := by
  rw [held, toNat_key]
  exact cell_eq keypad.keys (Keypad.slot key)

/-- Every key can be set. -/
theorem setKey_eq (keypad : Keypad) (key : UInt8) (pressed : Bool) :
    setKey keypad key pressed = some (keypad.set key pressed) := by
  rw [setKey, toNat_key, store_eq]
  rfl

/-- Every record can be applied. -/
theorem apply_eq (keypad : Keypad) (button : Button) :
    apply keypad button = some (button.apply keypad) := by
  rw [apply, Button.apply, Button.key?]
  by_cases driven : 1 ≤ button.number ∧ button.number ≤ 16
  · have enough : 1 ≤ button.number.toNat := UInt8.le_iff_toNat_le.1 driven.1
    have below : UInt8.ofNat (button.number.toNat - 1) = button.number - 1 := by
      apply UInt8.toNat_inj.1
      have small := button.number.toNat_lt
      rw [UInt8.toNat_ofNat', UInt8.toNat_sub, UInt8.toNat_one]
      omega
    rw [if_pos driven, if_pos driven, difference_eq enough]
    show setKey keypad (UInt8.ofNat (button.number.toNat - 1)) button.active = _
    rw [below]
    exact setKey_eq keypad _ _
  · rw [if_neg driven, if_neg driven]

/-- Every list of records can be given. -/
theorem updateButtons_eq (panel : Panel) (buttons : List Button) :
    updateButtons panel buttons = some (panel.updateButtons buttons) := by
  rw [updateButtons, foldlM_eq fun button _ keypad => apply_eq keypad button]
  rfl

/-- Every timer can be lowered. -/
theorem lower_eq (timer : Timer) : lower timer = some timer.tick := by
  obtain ⟨count⟩ := timer
  by_cases zero : count = 0
  · subst zero
    rfl
  · have some : 1 ≤ count.toNat := by
      have positive : count.toNat ≠ 0 := fun none => zero (UInt8.toNat_inj.1 none)
      omega
    have less : UInt8.ofNat (count.toNat - 1) = count - 1 := by
      apply UInt8.toNat_inj.1
      have small := count.toNat_lt
      rw [UInt8.toNat_ofNat', UInt8.toNat_sub, UInt8.toNat_one]
      omega
    have active : (⟨count⟩ : Timer).active = true := bne_iff_ne.2 zero
    rw [lower, if_neg zero, difference_eq some, Timer.tick, if_pos active, ← less]
    rfl

/-- Both timers can always tick. -/
theorem tick_eq (timers : Timers) : tick timers = some timers.tick := by
  rw [tick, lower_eq, lower_eq]
  rfl

/-- A bit that is set turns its pixel over, and any other leaves the picture. -/
theorem paintBit_eq (x y bits : UInt8) {row column : Nat} (short : row < 0x100)
    (inside : column < 8) (drawing : Screen.Drawing) :
    paintBit x y bits row drawing column =
      some (if bits.toNat.testBit (7 - column) then
        drawing.flip ⟨x.toNat + column, y.toNat + row⟩ else drawing) := by
  have left := x.toNat_lt
  have top := y.toNat_lt
  have wider : 0x10000 < wide := by decide
  have set : bits.toNat >>> (7 - column) % 2 = 0 ↔
      ¬bits.toNat.testBit (7 - column) = true := by
    rw [Nat.shiftRight_eq_div_pow, Nat.testBit_eq_decide_div_mod_eq, decide_eq_true_eq]
    omega
  have enough : column ≤ 7 := by omega
  have shifts : 7 - column < 8 := by omega
  have across : x.toNat + column < wide := by omega
  have down : y.toNat + row < wide := by omega
  have rows : (y.toNat + row) * 64 < wide := by omega
  have number : x.toNat + column + (y.toNat + row) * 64 < wide := by omega
  simp only [paintBit, difference_eq enough, shiftRight_eq shifts, Option.bind_eq_bind,
    Option.bind_some, set, Screen.width]
  by_cases lit : bits.toNat.testBit (7 - column) = true
  · rw [if_neg (not_not_intro lit), if_pos lit]
    let point : Point := ⟨x.toNat + column, y.toNat + row⟩
    have falls : (x.toNat + column + (y.toNat + row) * 64) % 2048 = point.cell.val := rfl
    simp only [sum_eq across, sum_eq down, product_eq rows, sum_eq number, falls, cell_eq, store_eq,
      Option.bind_some]
    rfl
  · rw [if_pos lit, if_neg lit]

/-- A row of a sprite is drawn at its points. -/
theorem paintRow_eq (x y bits : UInt8) {row : Nat} (short : row < 0x100)
    (drawing : Screen.Drawing) :
    paintRow x y bits row drawing =
      some ((Sprite.rowPoints x.toNat (y.toNat + row) bits).foldl Screen.Drawing.flip drawing) := by
  have columns : ∀ column ∈ List.range 8, ∀ drawing, paintBit x y bits row drawing column =
      some (if bits.toNat.testBit (7 - column) then
        drawing.flip ⟨x.toNat + column, y.toNat + row⟩ else drawing) :=
    fun column member => paintBit_eq x y bits short (List.mem_range.1 member)
  rw [paintRow, foldlM_eq columns, Sprite.rowPoints, List.foldl_map, List.foldl_filter]

/-- The rows of a sprite that follow a number of others are drawn at their points. -/
theorem paintRows_eq (x y : UInt8) {sprite : List UInt8} {above : Nat}
    (short : above + sprite.length ≤ 0x100) (drawing : Screen.Drawing) :
    (sprite.zipIdx above).foldlM (fun drawing (bits, row) => paintRow x y bits row drawing)
        drawing =
      some ((Sprite.points x.toNat (y.toNat + above) sprite).foldl Screen.Drawing.flip
        drawing) := by
  induction sprite generalizing above drawing with
  | nil => rfl
  | cons bits rest inductionHypothesis =>
    rw [List.length_cons] at short
    have here : above < 0x100 := by omega
    have later : above + 1 + rest.length ≤ 0x100 := by omega
    rw [List.zipIdx_cons, List.foldlM_cons, Sprite.points, List.foldl_append]
    show (paintRow x y bits above drawing).bind _ = _
    rw [paintRow_eq x y bits here]
    exact inductionHypothesis later _

/-- A sprite of no more rows than a byte counts is drawn. -/
theorem paint_eq (screen : Screen) (x y : UInt8) {sprite : List UInt8}
    (short : sprite.length ≤ 0x100) : paint screen x y sprite = some (screen.paint x y sprite) := by
  have fits : 0 + sprite.length ≤ 0x100 := by omega
  have rows := paintRows_eq x y fits ⟨screen.pixels, false⟩
  rw [paint, rows]
  rfl

/-- Every register can be a shift's operand. -/
theorem shiftOperand_eq (machine : Machine) (x y : UInt8) :
    shiftOperand machine x y = some (machine.shiftOperand x y) := by
  unfold shiftOperand Machine.shiftOperand
  cases machine.shift with
  | vx => exact value_eq machine.registers x
  | vy => exact value_eq machine.registers y

/-- Every register can take a key. -/
theorem acceptKey_eq (machine : Machine) (register key : UInt8) :
    acceptKey machine register key = some (machine.acceptKey register key) := by
  rw [acceptKey, assign_eq]
  rfl

/-- Every two registers can be combined. -/
theorem combine_eq (machine : Machine) (x y : UInt8) (operation : UInt8 → UInt8 → UInt8) :
    combine machine x y operation =
      some (machine.assign x (operation (machine.value x) (machine.value y))).next := by
  simp only [combine, value_eq, assign_eq, Option.bind_eq_bind, Option.bind_some]
  rfl

/-- Every result with a flag can be assigned. -/
theorem combineFlagged_eq (machine : Machine) (x : UInt8) (result : Flagged) :
    combineFlagged machine x result = some (machine.assignFlagged x result).next := by
  rw [combineFlagged, assignFlagged_eq]
  rfl

/-- A jump with offset is refused exactly when its target passes the last address. -/
theorem effect_jumpOffset (machine : Machine) (base : UInt16) :
    effect machine (.jumpOffset base) =
      if 0xFFFF < base.toNat + (machine.value 0).toNat then none
      else some (machine.effect (.jumpOffset base)) := by
  simp only [effect, value_eq, Option.bind_eq_bind, Option.bind_some]
  show (sum 0x10000 base.toNat (machine.value 0).toNat).bind _ = _
  by_cases fits : base.toNat + (machine.value 0).toNat < 0x10000
  · have target : UInt16.ofNat (base.toNat + (machine.value 0).toNat) =
        base + (machine.value 0).toUInt16 := by
      apply UInt16.toNat_inj.1
      rw [UInt16.toNat_add, UInt16.toNat_ofNat', UInt8.toNat_toUInt16]
    have within : ¬0xFFFF < base.toNat + (machine.value 0).toNat := by omega
    rw [sum_eq fits, if_neg within, Option.bind_some, target]
    rfl
  · have passes : 0xFFFF < base.toNat + (machine.value 0).toNat := by omega
    rw [sum_eq_none passes, if_pos passes]
    rfl

/-- The registers up to one are one more than its number. -/
theorem ofNat_succ (x : UInt8) : UInt16.ofNat (x.toNat + 1) = x.toUInt16 + 1 := by
  apply UInt16.toNat_inj.1
  rw [UInt16.toNat_add, UInt16.toNat_ofNat', UInt8.toNat_toUInt16, UInt16.toNat_one]

/-- Every other instruction is executed. -/
theorem effect_eq {machine : Machine} {ins : Instruction} (other : ∀ base, ins ≠ .jumpOffset base) :
    effect machine ins = some (machine.effect ins) := by
  cases ins with
  | jumpOffset base => exact absurd rfl (other base)
  | copy | or | and | xor => exact combine_eq machine _ _ _
  | add x y | subtract x y | subtractFrom x y =>
    simp only [effect, value_eq, Option.bind_eq_bind, Option.bind_some]
    exact combineFlagged_eq machine x _
  | shiftRight x y =>
    simp only [effect, shiftOperand_eq, halve_eq, Option.bind_eq_bind, Option.bind_some]
    exact combineFlagged_eq machine x _
  | shiftLeft x y =>
    simp only [effect, shiftOperand_eq, double_eq, Option.bind_eq_bind, Option.bind_some]
    exact combineFlagged_eq machine x _
  | draw x y height =>
    have short : (machine.memory.read machine.index height.toNat).length ≤ 0x100 := by
      have small := height.toNat_lt
      rw [Memory.length_read]
      omega
    simp only [effect, value_eq, read_eq, paint_eq _ _ _ short, setFlag_eq, Option.bind_eq_bind,
      Option.bind_some]
    rfl
  | awaitKey x =>
    cases first : machine.keys.first? with
    | none => simp only [effect, Machine.effect, first]
    | some key =>
      simp only [effect, Machine.effect, first]
      exact acceptKey_eq machine x key
  | addIndex x =>
    have index := machine.index.toNat_lt
    have small := (machine.value x).toNat_lt
    have fits : machine.index.toNat + (machine.value x).toNat < 0x100000000 := by omega
    simp only [effect, value_eq, Option.bind_eq_bind, Option.bind_some]
    show (sum 0x100000000 machine.index.toNat (machine.value x).toNat).bind _ = _
    rw [sum_eq fits, Option.bind_some, setFlag_eq]
    rfl
  | pointGlyph x =>
    have small := (machine.value x).toNat_lt
    have glyph : (machine.value x).toNat * Font.glyphBytes < 0x10000 := by
      rw [Font.glyphBytes]
      omega
    have fits : Font.start + (machine.value x).toNat * Font.glyphBytes < 0x10000 := by
      rw [Font.glyphBytes, Font.start]
      omega
    simp only [effect, value_eq, Option.bind_eq_bind, Option.bind_some]
    show (product 0x10000 (machine.value x).toNat Font.glyphBytes).bind _ = _
    rw [product_eq glyph, Option.bind_some, sum_eq fits]
    rfl
  | storeDecimal x =>
    have found : ∀ k < 3, (Arithmetic.decimalDigits (machine.value x))[k]? =
        some ((Arithmetic.decimalDigits (machine.value x)).getD k 0) := by
      intro k inside
      have present : k < (Arithmetic.decimalDigits (machine.value x)).length := inside
      rw [List.getD_eq_getElem?_getD, List.getElem?_eq_getElem present]
      rfl
    simp only [effect, value_eq, Option.bind_eq_bind, Option.bind_some]
    show (fill machine.memory machine.index
      (fun k => (Arithmetic.decimalDigits (machine.value x))[k]?) 3).bind _ = _
    rw [fill_eq machine.memory found, Option.bind_some]
    rfl
  | storeRegisters x =>
    have small := x.toNat_lt
    have fits : x.toNat + 1 < 0x10000 := by omega
    have found : ∀ k < x.toNat + 1, value machine.registers (UInt8.ofNat k) =
        some (machine.registers.get (UInt8.ofNat k)) := fun k _ => value_eq _ _
    simp only [effect, fill_eq machine.memory found, sum_eq fits, ofNat_succ, Option.bind_eq_bind,
      Option.bind_some]
    rfl
  | loadRegisters x =>
    have small := x.toNat_lt
    have fits : x.toNat + 1 < 0x10000 := by omega
    simp only [effect, loadFrom_eq, sum_eq fits, ofNat_succ, Option.bind_eq_bind, Option.bind_some]
    rfl
  | _ =>
    simp only [effect, value_eq, assign_eq, push_eq, pop_eq, held_eq, Option.bind_eq_bind,
      Option.bind_some]
    rfl

/-- Only the target of a jump with offset can pass the last address. -/
theorem overflows_iff {machine : Machine} {ins : Instruction} :
    machine.Overflows ins ↔
      ∃ base, ins = .jumpOffset base ∧ 0xFFFF < base.toNat + (machine.value 0).toNat := by
  constructor
  · intro overflows
    cases ins with
    | jumpOffset base => exact ⟨base, rfl, overflows⟩
    | _ => exact overflows.elim
  · rintro ⟨base, rfl, passes⟩
    exact passes

/-- Checked execution is execution that refuses targets past the last address. -/
theorem execute_eq (machine : Machine) (ins : Instruction) :
    execute machine ins = machine.execute? ins := by
  rw [execute, Machine.execute?]
  by_cases jumps : ∃ base, ins = .jumpOffset base
  · obtain ⟨base, rfl⟩ := jumps
    rw [effect_jumpOffset]
    by_cases passes : 0xFFFF < base.toNat + (machine.value 0).toNat
    · rw [if_pos passes, if_pos (overflows_iff.2 ⟨base, rfl, passes⟩)]
      rfl
    · rw [if_neg passes, if_neg (show ¬machine.Overflows (.jumpOffset base) from passes)]
      rfl
  · have fits : ¬machine.Overflows ins := by
      intro overflows
      obtain ⟨base, same, _⟩ := overflows_iff.1 overflows
      exact jumps ⟨base, same⟩
    rw [effect_eq fun base same => jumps ⟨base, same⟩, if_neg fits]
    rfl

/-- A wait always ends or goes on. -/
theorem resume_eq (machine : Machine) (register : UInt8) :
    resume machine register = some (machine.resume register) := by
  cases first : machine.keys.first? with
  | none => simp only [resume, first]
  | some key =>
    simp only [resume, Machine.resume, first, acceptKey_eq, Option.bind_eq_bind, Option.bind_some]
    rfl

/-- The word at any program counter can be fetched. -/
theorem fetch_eq (machine : Machine) : fetch machine = some machine.fetch := by
  rw [fetch, byte_eq, byte_eq]
  rfl

/-- A step is never refused. -/
theorem step_eq (machine : Machine) : step machine = some machine.step := by
  rw [← Machine.step?_eq_step, step, Machine.step?]
  cases machine.status with
  | running =>
    rw [fetch_eq]
    show (Instruction.read? machine.fetch).bind (execute machine) = _
    rw [funext (execute_eq machine)]
  | awaitingKey register => exact resume_eq machine register
  | faulted fault => rfl

/-- A slice that lies within memory takes as many bytes as it is long. -/
theorem copy_eq (memory : Memory) {start : Nat} {bytes : List UInt8}
    (within : start + bytes.length ≤ 4096) :
    copy memory start (start + bytes.length) bytes =
      some (memory.write (UInt16.ofNat start) bytes) := by
  have length : bytes.length = start + bytes.length - start := by omega
  exact if_pos ⟨Nat.le_add_right start _, within, length⟩

/-- A reset is never refused. -/
theorem reset_eq (machine : Machine) : reset machine = some machine.reset := by
  have fits : Font.start + Font.bytes.length < wide := by decide
  have within : Font.start + Font.bytes.length ≤ 4096 := by decide
  simp only [reset, sum_eq fits, copy_eq Memory.blank within, Option.bind_eq_bind,
    Option.bind_some]
  rfl

/-- Loading is never refused by a check, whatever the program. -/
theorem load_eq (machine : Machine) (program : List UInt8) :
    load machine program =
      some (.loaded (machine.load program).refusal, (machine.load program).machine) := by
  have started : machine.load program = machine.reset.insert program := rfl
  rw [started, Machine.insert]
  simp only [load, reset_eq, Option.bind_eq_bind, Option.bind_some]
  cases refused : Memory.refusal? program with
  | some failure => rfl
  | none =>
    have short := (Memory.refusal?_eq_none_iff.1 refused).2
    have within : Memory.programStart + program.length ≤ 4096 := by
      rw [Memory.programStart]
      omega
    have fits : Memory.programStart + program.length < wide :=
      Nat.lt_of_le_of_lt within (by decide)
    simp only [sum_eq fits, copy_eq machine.reset.memory within, Option.bind_some]
    rfl

/-- No operation is refused unless it executes a jump past the last address directly. -/
theorem perform_eq {machine : Machine} {operation : Operation}
    (fits : ∀ ins, operation = .execute ins → ¬machine.Overflows ins) :
    perform machine operation = some (machine.perform operation) := by
  cases operation with
  | step =>
    rw [perform, step_eq]
    rfl
  | execute ins =>
    rw [perform, execute_eq, Machine.execute?, if_neg (fits ins rfl)]
    rfl
  | tick =>
    rw [perform, tick_eq]
    rfl
  | setKey key pressed =>
    rw [perform, setKey_eq]
    rfl
  | load program => exact load_eq machine program
  | reset =>
    rw [perform, reset_eq]
    rfl
  | _ => rfl

/-- Nothing that happens between a machine and a host is refused, unless an instruction is executed
directly. -/
theorem after_eq {exchange : Exchange} {event : Event}
    (indirect : ∀ ins, event ≠ .operate (.execute ins)) :
    after exchange event = some (exchange.after event) := by
  cases event with
  | operate operation =>
    have fits : ∀ ins, operation = .execute ins → ¬exchange.machine.Overflows ins :=
      fun ins same => absurd (congrArg Event.operate same) (indirect ins)
    rw [after, perform_eq fits]
    rfl
  | updateButtons buttons =>
    rw [after, updateButtons_eq]
    rfl
  | _ => rfl

/-- **A single check can fail.** An instruction is refused exactly when it is a jump with offset
whose target passes the last address, and is otherwise executed as the machine executes it. Digits
are read from a word under every check and none of the reads of decoding is refused; what is decoded
fits its digits. So no step is refused, whatever the machine, and neither is anything else that
happens between a machine and a host, in any order, unless it executes an instruction directly. -/
theorem refused_iff_jumps_beyond :
    (∀ (machine : Machine) (ins : Instruction),
        (execute machine ins = none ↔
          ∃ base, ins = .jumpOffset base ∧ 0xFFFF < base.toNat + (machine.value 0).toNat) ∧
        ∀ turn ∈ execute machine ins, turn = machine.execute ins) ∧
      (∀ count, take count = Cursor.take count) ∧
      (∀ word, Instruction.read? word = some (Instruction.decode word) ∧
        ((Instruction.decode word).Encodable ∨
          Instruction.decode word = .unimplemented word)) ∧
      (∀ machine : Machine, step machine = some machine.step) ∧
      ∀ (exchange : Exchange) (events : List Event), (∀ ins, .operate (.execute ins) ∉ events) →
        run exchange events = some (exchange.reached events events.length) := by
  refine ⟨fun machine ins => ⟨?_, fun turn done => ?_⟩, take_eq, fun word => ⟨?_, ?_⟩, step_eq,
    fun exchange events indirect => ?_⟩
  · rw [execute_eq, Machine.execute?, ← overflows_iff]
    by_cases overflows : machine.Overflows ins
    · simp only [overflows, if_true]
    · simp only [overflows, if_false, reduceCtorEq]
  · rw [execute_eq, Machine.execute?] at done
    by_cases overflows : machine.Overflows ins
    · rw [if_pos overflows] at done
      cases done
    · rw [if_neg overflows] at done
      exact (Option.some.inj done).symm
  · exact Instruction.read?_eq_decode word
  · exact (Instruction.written_decode word).imp_left And.left
  · have each : ∀ event ∈ events, ∀ exchange, after exchange event = some (exchange.after event) :=
      fun event member exchange => after_eq fun ins same => indirect ins (same ▸ member)
    rw [run, foldlM_eq each, Exchange.reached, List.take_length]

/-- A machine whose V0 holds one. -/
def counting : Machine := Machine.initial.assign 0 1

/-- What happens around a program that jumps to address 0xFFF plus V0: keys, a tick, steps, a look
at the panel, a program that is too long, and a reset. -/
def wrappingEvents : List Event :=
  [.operate (.load [0x60, 0xFF, 0xBF, 0xFF]), .operate (.setKey 0xFF true), .operate .step,
    .operate .step, .operate .tick, .sync, .operate .step, .operate (.load []), .operate .reset]

/-- The one check fails for a host that has address 0xFFFF as base, and never for the program. -/
theorem refused_counting :
    execute counting (.jumpOffset 0xFFFF) = none ∧
      execute counting (.jumpOffset 0xFFFE) = some (counting.execute (.jumpOffset 0xFFFE)) ∧
      run (Exchange.start counting) wrappingEvents =
        some ((Exchange.start counting).reached wrappingEvents 9) := by
  obtain ⟨executes, _, _, _, runs⟩ := refused_iff_jumps_beyond
  have one : (counting.value 0).toNat = 1 := by decide +kernel
  refine ⟨?_, ?_, ?_⟩
  · refine (executes counting _).1.2 ⟨0xFFFF, rfl, ?_⟩
    rw [one]
    decide
  · cases done : execute counting (.jumpOffset 0xFFFE) with
    | some turn => rw [(executes counting _).2 turn done]
    | none =>
      obtain ⟨base, same, passes⟩ := (executes counting _).1.1 done
      obtain rfl := Instruction.jumpOffset.inj same
      rw [one] at passes
      exact absurd passes (by decide)
  · refine runs (Exchange.start counting) wrappingEvents fun ins member => ?_
    simp [wrappingEvents] at member

end Chip8.Checked
