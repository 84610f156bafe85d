/-!
# The keypad

Sixteen keys, each held or not. A key is numbered by the low digit of a byte.
-/
namespace Chip8

/-- Which keys are held. -/
structure Keypad where
  /-- Key K is held when cell K is set. -/
  keys : Vector Bool 16
deriving DecidableEq, Repr

namespace Keypad

/-- No key is held. -/
def released : Keypad := ⟨Vector.replicate 16 false⟩

/-- The low digit of a byte names a key. -/
def slot (key : UInt8) : Fin 16 := ⟨key.toNat % 16, Nat.mod_lt _ (by decide)⟩

/-- Whether a key is held. -/
def held (keypad : Keypad) (key : UInt8) : Bool := keypad.keys[slot key]

/-- One key is pressed or released and the others stay as they are. -/
def set (keypad : Keypad) (key : UInt8) (pressed : Bool) : Keypad :=
  ⟨keypad.keys.set (slot key) pressed (slot key).isLt⟩

/-- The lowest-numbered key that is held. -/
def first? (keypad : Keypad) : Option UInt8 :=
  ((List.finRange 16).find? fun key => keypad.keys[key]).map fun key => UInt8.ofNat key

/-- A key reads what was last set for it. -/
theorem held_set (keypad : Keypad) (written read : UInt8) (pressed : Bool) :
    (keypad.set written pressed).held read =
      if slot written = slot read then pressed else keypad.held read := by
  simp only [held, set, Fin.getElem_fin, Vector.getElem_set, Fin.ext_iff]

/-- The first key held is looked for in the order of the numbers. -/
theorem first?_eq_map (keypad : Keypad) :
    keypad.first? =
      ((List.finRange 16).find? fun key => keypad.keys[key]).map
        fun key => UInt8.ofNat key.val := by
  unfold first?
  cases (List.finRange 16).find? fun key => keypad.keys[key] <;> rfl

/-- There is no first key exactly when no key is held. -/
theorem first?_eq_none_iff {keypad : Keypad} :
    keypad.first? = none ↔ ∀ key : Fin 16, keypad.keys[key] = false := by
  rw [first?_eq_map, Option.map_eq_none_iff, List.find?_eq_none]
  simp only [List.mem_finRange, true_implies, Bool.not_eq_true]

/-- The first key is held, and no key below it is. -/
theorem first?_eq_some_iff {keypad : Keypad} {key : UInt8} :
    keypad.first? = some key ↔
      ∃ lowest : Fin 16, key = UInt8.ofNat lowest ∧ keypad.keys[lowest] = true ∧
        ∀ lower < lowest, keypad.keys[lower] = false := by
  rw [first?_eq_map, Option.map_eq_some_iff]
  simp only [List.find?_eq_some_iff_getElem, List.getElem_finRange, Bool.not_eq_true']
  constructor
  · rintro ⟨lowest, ⟨held, position, inside, rfl, before⟩, rfl⟩
    exact ⟨_, rfl, held, fun lower less => before lower.val less⟩
  · rintro ⟨lowest, rfl, held, before⟩
    refine ⟨lowest, ⟨held, lowest.val, ?_, rfl, fun position less => ?_⟩, rfl⟩
    · rw [List.length_finRange]
      exact lowest.isLt
    · exact before ⟨position, Nat.lt_trans less lowest.isLt⟩ less

end Keypad

end Chip8
