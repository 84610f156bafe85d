import Chip8.Panel
import Chip8.Proofs.Blocks
import Chip8.Proofs.Moments

/-!
# The last record for a key decides

A host describes its buttons in lists of records, and a list may leave keys out, name one twice or
name none at all. A list is applied in order to the keys as all earlier lists left them
(`Keypad.get_foldl_apply`), so the lists act as one long list: right after a new one is given, every
key is what the last record for it says, wherever in the past that record stands. The keys that a host
sets directly are kept apart from the records and last only until the next list (`driven`).
-/
namespace Chip8

namespace Button

/-- Whether a record drives a key: its number is one above the key's. -/
def Drives (key : Fin 16) (button : Button) : Prop := button.number.toNat = key.val + 1

/-- Driving a key is read off the number. -/
instance (key : Fin 16) : DecidablePred (Drives key) := fun button =>
  inferInstanceAs (Decidable (button.number.toNat = key.val + 1))

/-- A record whose number is one of 1 to 16 names the key one below it. -/
theorem slot_eq_iff_drives {button : Button} {key : Fin 16} (lower : 1 ≤ button.number.toNat)
    (upper : button.number.toNat ≤ 16) :
    Keypad.slot (button.number - 1) = key ↔ button.Drives key := by
  have below := key.isLt
  have less : (button.number - 1).toNat = button.number.toNat - 1 :=
    UInt8.toNat_sub_of_le _ _ (UInt8.le_iff_toNat_le.2 lower)
  rw [Fin.ext_iff, Drives]
  show (button.number - 1).toNat % 16 = key.val ↔ _
  omega

/-- A record sets the key that it drives and no other. -/
theorem get_apply (button : Button) (keypad : Keypad) (key : Fin 16) :
    (button.apply keypad).keys.get key =
      if button.Drives key then button.active else keypad.keys.get key := by
  have below := key.isLt
  have range : 1 ≤ button.number ∧ button.number ≤ 16 ↔
      1 ≤ button.number.toNat ∧ button.number.toNat ≤ 16 := by
    rw [UInt8.le_iff_toNat_le, UInt8.le_iff_toNat_le]
    rfl
  by_cases within : 1 ≤ button.number.toNat ∧ button.number.toNat ≤ 16
  · have sets : button.apply keypad = keypad.set (button.number - 1) button.active := by
      rw [apply, key?, if_pos (range.2 within)]
    rw [sets, Keypad.set, get_set_cell]
    simp only [slot_eq_iff_drives within.1 within.2]
  · have leaves : button.apply keypad = keypad := by
      rw [apply, key?, if_neg (mt range.1 within)]
    have outside : ¬button.Drives key := by
      rw [Drives]
      omega
    rw [leaves, if_neg outside]

end Button

namespace Keypad

/-- The last of some records that drives a key, if one does. -/
def driver? (key : Fin 16) (buttons : List Button) : Option Button :=
  (buttons.filter fun button => button.Drives key).getLast?

/-- Every key is what the last record for it says, and is not held if there is none. -/
def drivenBy (buttons : List Button) : Keypad :=
  ⟨Vector.ofFn fun key => (driver? key buttons).elim false Button.active⟩

/-- Of two lists the later one decides, if it has a record for the key. -/
theorem driver?_append (key : Fin 16) (earlier later : List Button) :
    driver? key (earlier ++ later) = (driver? key later).or (driver? key earlier) := by
  rw [driver?, List.filter_append, List.getLast?_append]
  rfl

/-- A choice between two records reads the first that there is. -/
theorem elim_or {first second : Option Button} {otherwise : Bool} :
    (first.or second).elim otherwise Button.active =
      first.elim (second.elim otherwise Button.active) Button.active := by
  cases first <;> rfl

/-- Records applied in order leave every key as the last record for it says, and the other keys as
they were. -/
theorem get_foldl_apply (keypad : Keypad) (buttons : List Button) (key : Fin 16) :
    (buttons.foldl (fun keys button => button.apply keys) keypad).keys.get key =
      (driver? key buttons).elim (keypad.keys.get key) Button.active := by
  induction buttons generalizing keypad with
  | nil => rfl
  | cons button later inductionHypothesis =>
    have joined : driver? key (button :: later) =
        (driver? key later).or (driver? key [button]) := driver?_append key [button] later
    have first : (driver? key [button]).elim (keypad.keys.get key) Button.active =
        (button.apply keypad).keys.get key := by
      rw [Button.get_apply, driver?]
      by_cases drives : button.Drives key
      · rw [if_pos drives, List.filter_cons_of_pos (by simpa using drives)]
        rfl
      · rw [if_neg drives, List.filter_cons_of_neg (by simpa using drives)]
        rfl
    rw [List.foldl_cons, inductionHypothesis, joined, elim_or, first]

/-- Further records decide the keys that they drive and leave the others to the earlier ones. -/
theorem foldl_apply_drivenBy (earlier later : List Button) :
    later.foldl (fun keys button => button.apply keys) (drivenBy earlier) =
      drivenBy (earlier ++ later) := by
  have cells : ∀ key : Fin 16,
      (later.foldl (fun keys button => button.apply keys) (drivenBy earlier)).keys.get key =
        (drivenBy (earlier ++ later)).keys.get key := by
    intro key
    rw [get_foldl_apply, drivenBy, drivenBy, get_ofFn_cell, get_ofFn_cell, driver?_append, elim_or]
  exact congrArg Keypad.mk (ext_cells cells)

end Keypad

namespace Panel

/-- One use of a panel, by the host or by a machine that meets it there. -/
inductive Use where
  /-- The host sets the keys. -/
  | setKeys (keys : Keypad)
  /-- The host gives new button records. -/
  | updateButtons (buttons : List Button)
  /-- The host takes the picture. -/
  | take
  /-- The panel is brought up to date with a machine. -/
  | sync (machine : Machine)
  /-- The panel starts anew. -/
  | reset

/-- The panel after a use. -/
def after (panel : Panel) : Use → Panel
  | .setKeys keys => panel.setKeys keys
  | .updateButtons buttons => panel.updateButtons buttons
  | .take => panel.takeFrame.2
  | .sync machine => (panel.sync machine).1
  | .reset => panel.reset

/-- A new panel when it was used so many times. -/
def reached (uses : List Use) (moment : Nat) : Panel := (uses.take moment).foldl after initial

/-- A list of records is given at a moment. -/
def Gives (uses : List Use) (moment : Nat) (buttons : List Button) : Prop :=
  uses[moment]? = some (.updateButtons buttons)

/-- The records that a use gives. -/
def Use.records : Use → List Button
  | .updateButtons buttons => buttons
  | .setKeys _ | .take | .sync _ | .reset => []

/-- All records that were ever given, in the order in which they were. -/
def records (uses : List Use) (now : Nat) : List Button := (uses.take now).flatMap Use.records

/-- The keys are written at a moment: the host sets them, or it gives records and every key is what
the last record for it says, of all that were ever given. -/
def Writes (uses : List Use) (moment : Nat) (keys : Keypad) : Prop :=
  uses[moment]? = some (.setKeys keys) ∨
    ∃ buttons, Gives uses moment buttons ∧ keys = Keypad.drivenBy (records uses (moment + 1))

/-- What the keys and the records of a panel are at a moment. -/
structure Driven (uses : List Use) (now : Nat) : Prop where
  /-- Right after records are given, every key is what the last record for it says, of all that were
  ever given, and is not held if there is none. -/
  decided : ∀ buttons, Gives uses now buttons → ∀ key : Fin 16,
    (reached uses (now + 1)).keys.keys.get key =
      (Keypad.driver? key (records uses (now + 1))).elim false Button.active
  /-- The panel lists the records that were given last. -/
  listed : Latest (Gives uses) Controls.defaultButtons now (reached uses now).controls.buttons
  /-- The keys are those that were written last. -/
  written : Latest (Writes uses) Keypad.released now (reached uses now).keys

variable {uses : List Use} {use : Use} {now : Nat}

/-- The next moment is the present and the use that happens. -/
theorem reached_succ (happens : uses[now]? = some use) :
    reached uses (now + 1) = (reached uses now).after use :=
  foldl_take_succ happens initial

/-- A moment later the records are those so far and those that the use gives. -/
theorem records_succ (happens : uses[now]? = some use) :
    records uses (now + 1) = records uses now ++ use.records := by
  rw [records, List.take_add_one, happens, List.flatMap_append]
  exact congrArg _ (List.append_nil use.records)

/-- Bringing a panel up to date leaves alone what the host wrote. -/
theorem written_sync (panel : Panel) (machine : Machine) :
    (panel.sync machine).1.controls = panel.controls ∧ (panel.sync machine).1.keys = panel.keys := by
  obtain ⟨pc, index, registers, stack, timers, status, keys, shift, random, memory,
    ⟨pixels, dirty⟩⟩ := machine
  cases dirty with
  | false => exact ⟨rfl, rfl⟩
  | true => exact ⟨rfl, rfl⟩

/-- Only new records change the records that a panel lists and the keys that they drive. -/
theorem controls_after (panel : Panel) (still : ∀ buttons, use ≠ .updateButtons buttons) :
    (panel.after use).controls = panel.controls := by
  cases use with
  | updateButtons buttons => exact absurd rfl (still buttons)
  | sync machine => exact (panel.written_sync machine).1
  | _ => rfl

/-- Only new records and the host, when it sets them, change the keys. -/
theorem keys_after (panel : Panel) (still : ∀ buttons, use ≠ .updateButtons buttons)
    (unset : ∀ keys, use ≠ .setKeys keys) : (panel.after use).keys = panel.keys := by
  cases use with
  | updateButtons buttons => exact absurd rfl (still buttons)
  | setKeys keys => exact absurd rfl (unset keys)
  | sync machine => exact (panel.written_sync machine).2
  | _ => rfl

/-- What is given at a moment is given by the use that happens. -/
theorem gives_iff (happens : uses[now]? = some use) {buttons : List Button} :
    Gives uses now buttons ↔ use = .updateButtons buttons := by
  rw [Gives, happens, Option.some.injEq]

/-- **The records act as one list.** Apart from what the host sets directly, every key is what the last
record for it says, of all that were ever given. -/
theorem keys_of_records (within : now ≤ uses.length) :
    (reached uses now).controls.keys = Keypad.drivenBy (records uses now) := by
  refine holds_at_moments (fun now => (reached uses now).controls.keys =
    Keypad.drivenBy (records uses now)) ?_ ?_ within
  · exact congrArg Keypad.mk (ext_cells fun key => by rw [get_replicate_cell, get_ofFn_cell]; rfl)
  · intro now use happens driven
    rw [reached_succ happens, records_succ happens]
    by_cases given : ∃ buttons, use = .updateButtons buttons
    · obtain ⟨buttons, rfl⟩ := given
      rw [Use.records, ← Keypad.foldl_apply_drivenBy, ← driven]
      rfl
    · have still : ∀ buttons, use ≠ .updateButtons buttons := not_exists.1 given
      have nothing : use.records = [] := by
        cases use with
        | updateButtons buttons => exact absurd rfl (still buttons)
        | _ => rfl
      rw [controls_after _ still, nothing, List.append_nil, driven]

/-- Records that are given leave the keys as all records so far drive them. -/
theorem keys_of_gives {buttons : List Button} (gives : Gives uses now buttons) :
    (reached uses (now + 1)).keys = Keypad.drivenBy (records uses (now + 1)) := by
  have inside : now < uses.length := (List.getElem?_eq_some_iff.1 gives).1
  rw [← keys_of_records inside, reached_succ gives]
  rfl

/-- The panel lists the records that were given last. -/
theorem listed (within : now ≤ uses.length) :
    Latest (Gives uses) Controls.defaultButtons now (reached uses now).controls.buttons := by
  refine holds_at_moments (fun now => Latest (Gives uses) Controls.defaultButtons now
    (reached uses now).controls.buttons) latest_zero ?_ within
  intro now use happens latest
  rw [reached_succ happens]
  by_cases given : ∃ buttons, use = .updateButtons buttons
  · obtain ⟨buttons, rfl⟩ := given
    exact latest_of_given happens
  · have still : ∀ buttons, use ≠ .updateButtons buttons := not_exists.1 given
    rw [controls_after _ still]
    exact latest.succ fun buttons gives => still buttons ((gives_iff happens).1 gives)

/-- The keys are those that were written last. -/
theorem written (within : now ≤ uses.length) :
    Latest (Writes uses) Keypad.released now (reached uses now).keys := by
  refine holds_at_moments (fun now => Latest (Writes uses) Keypad.released now
    (reached uses now).keys) latest_zero ?_ within
  intro now use happens latest
  by_cases given : ∃ buttons, use = .updateButtons buttons
  · obtain ⟨buttons, rfl⟩ := given
    exact latest_of_given (.inr ⟨buttons, happens, keys_of_gives happens⟩)
  rw [reached_succ happens]
  by_cases direct : ∃ keys, use = .setKeys keys
  · obtain ⟨keys, rfl⟩ := direct
    exact latest_of_given (.inl happens)
  · have still : ∀ buttons, use ≠ .updateButtons buttons := not_exists.1 given
    have unset : ∀ keys, use ≠ .setKeys keys := not_exists.1 direct
    rw [keys_after _ still unset]
    refine latest.succ fun keys writes => ?_
    rcases writes with sets | ⟨buttons, gives, _⟩
    · rw [happens] at sets
      exact unset keys (Option.some.inj sets)
    · exact still buttons ((gives_iff happens).1 gives)

/-- **Buttons drive the keys.** However a new panel is used: right after the host gives button records,
every key is what the last record for it says, of all the records that were ever given and in the order
in which they were, or is not held if there is none, so that neither keys that were set directly nor a
panel that started anew bear on it; the panel lists just the records that were given last; and between
updates the keys are those that were written last, by records or directly. -/
theorem driven (uses : List Use) {now : Nat} (within : now ≤ uses.length) : Driven uses now := by
  refine ⟨fun buttons gives key => ?_, listed within, written within⟩
  rw [keys_of_gives gives, Keypad.drivenBy, get_ofFn_cell]

/-- A host that names key 0 twice, key 15 once and two keys that there are not, sets all keys directly
while the panel is used otherwise, and then names key 1. -/
def pressing : List Use :=
  [.updateButtons [⟨"0", 1, true, 1⟩, ⟨"F", 16, true, 1⟩, ⟨"none", 17, true, 1⟩, ⟨"0", 1, false, 2⟩,
      ⟨"none", 0, true, 1⟩],
    .setKeys ⟨Vector.replicate 16 true⟩, .reset, .take, .sync Machine.initial,
    .updateButtons [⟨"1", 2, true, 1⟩]]

/-- Before the second list all keys are held. After it only key 15, of which the first list spoke, and
key 1 are. -/
theorem driven_pressing :
    5 ≤ pressing.length ∧ Gives pressing 5 [⟨"1", 2, true, 1⟩] ∧
      Latest (Writes pressing) Keypad.released 5 ⟨Vector.replicate 16 true⟩ ∧
      ∀ key : Fin 16, (reached pressing 6).keys.keys.get key = decide (key.val = 1 ∨ key.val = 15) := by
  have within : 5 ≤ pressing.length := by decide
  have gives : Gives pressing 5 [⟨"1", 2, true, 1⟩] := rfl
  have lastDrivers : ∀ key : Fin 16,
      (Keypad.driver? key (records pressing 6)).elim false Button.active =
        decide (key.val = 1 ∨ key.val = 15) := by
    decide +kernel
  refine ⟨within, gives, (driven pressing within).written, fun key => ?_⟩
  rw [(driven pressing within).decided _ gives, lastDrivers]

end Panel

end Chip8
