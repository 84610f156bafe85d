import Chip8.Keypad
import Chip8.Text.Hex

/-!
# Controls

The host describes its controls as a list of button records. A record whose number is one of
1 to 16 drives the key one below its number; records with other numbers drive nothing. Keys
that no record of a list drives keep the state that an earlier list gave them.
-/
namespace Chip8

/-- One control as the host describes it. -/
structure Button where
  /-- The name shown to a player. -/
  name : String
  /-- The key it drives is one below this number. -/
  number : UInt8
  /-- Whether it is pressed. -/
  active : Bool
  /-- The player it belongs to. -/
  player : UInt8
deriving DecidableEq, Repr

namespace Button

/-- The key that a record drives. -/
def key? (button : Button) : Option UInt8 :=
  if 1 ≤ button.number ∧ button.number ≤ 16 then some (button.number - 1) else none

/-- A record sets the key it drives. -/
def apply (button : Button) (keypad : Keypad) : Keypad :=
  match button.key? with
  | some key => keypad.set key button.active
  | none => keypad

end Button

/-- The records last given and the keys that all records so far have left. -/
structure Controls where
  /-- The records last given. -/
  buttons : List Button
  /-- The keys as driven so far. -/
  keys : Keypad
deriving DecidableEq, Repr

namespace Controls

/-- One idle button for each key. -/
def defaultButtons : List Button :=
  (List.range 16).map fun key =>
    ⟨"Button " ++ Hex.padded 1 key, UInt8.ofNat (key + 1), false, 1⟩

/-- The default buttons, before any of them was looked at. -/
def initial : Controls := ⟨defaultButtons, Keypad.released⟩

/-- One player at a time. -/
def maxPlayers : Nat := 1

/-- The host gives a new list of records. -/
def update (controls : Controls) (buttons : List Button) : Controls :=
  { controls with buttons }

/-- The records are applied in order, so of two records with one number the later decides. -/
def apply (controls : Controls) : Controls :=
  let keys := controls.buttons.foldl (fun keys button => button.apply keys) controls.keys
  { controls with keys }

end Controls

end Chip8
