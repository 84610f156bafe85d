import Chip8.Proofs.Hiding

/-!
# Where the choice of shift operand shows

A host chooses the register that shifts read, and programs were written for either choice. Two
instructions look at it, and even they do the same under both as long as the two registers hold the
same value when the instruction begins (`shiftOperand_of_same`): the operand is read before the flag
and the result are written, so it makes no difference that one of the registers may be VF. Resets
and programs that are loaded leave the choice as it is, and so it shows through nothing else
(`hides_shift`).
-/
namespace Chip8

/-- An instruction that shifts does so in place: the register that it reads under one choice is the
one that it reads under the other. -/
def Instruction.ShiftsInPlace : Instruction → Prop
  | .shiftRight x y | .shiftLeft x y => x = y
  | _ => True

namespace Machine

variable {machine left right : Machine}

/-- An instruction that shifts finds the same value under both choices. -/
def ShiftsAlike (machine : Machine) : Instruction → Prop
  | .shiftRight x y | .shiftLeft x y => machine.value x = machine.value y
  | _ => True

/-- An instruction that shifts in place finds the same value under both choices. -/
theorem shiftsAlike_of_shiftsInPlace (machine : Machine) {ins : Instruction}
    (shiftsInPlace : ins.ShiftsInPlace) : machine.ShiftsAlike ins := by
  cases ins with
  | shiftRight x y | shiftLeft x y => exact congrArg machine.value shiftsInPlace
  | _ => trivial

/-- The operand of a shift does not depend on the choice if both registers hold the same. -/
theorem shiftOperand_of_same {x y : UInt8} (same : machine.value x = machine.value y) :
    machine.shiftOperand x y = machine.value x := by
  cases choice : machine.shift with
  | vx => simp only [shiftOperand, choice]
  | vy => simp only [shiftOperand, choice, same]

/-- The machine that shifts in place. -/
def shiftless (machine : Machine) : Machine := { machine with shift := .vx }

/-- Machines that are the same when they shift in place differ in that choice alone. -/
theorem withShift_of_shiftless_eq (same : left.shiftless = right.shiftless) :
    right = left.withShift right.shift := by
  calc right
    _ = right.shiftless.withShift right.shift := rfl
    _ = left.shiftless.withShift right.shift := by rw [same]
    _ = left.withShift right.shift := rfl

/-- The choice of shift operand shows through no instruction but a shift that finds different
values. -/
theorem hides_shift : Hides shiftless ShiftsAlike := by
  constructor
  case aligned =>
    intro left right same
    rw [withShift_of_shiftless_eq same]
    exact ⟨rfl, rfl, rfl, rfl⟩
  case effect =>
    intro left right ins same alike
    rw [withShift_of_shiftless_eq same]
    generalize right.shift = choice
    cases ins with
    | shiftRight x y | shiftLeft x y =>
      have equal : left.value x = left.value y := alike rfl
      have operand : left.shiftOperand x y = left.value x := shiftOperand_of_same equal
      have chosen : (left.withShift choice).shiftOperand x y = left.value x :=
        shiftOperand_of_same equal
      rw [effect, effect, operand, chosen]
      rfl
    | _ =>
      rw [effect_eq_merged, effect_eq_merged]
      rfl
  case host =>
    intro left right operation same host
    rw [withShift_of_shiftless_eq same]
    generalize right.shift = choice
    cases operation with
    | step | execute => exact absurd trivial host
    | load program => exact perform_load_alike program fun _ => rfl
    | _ => exact ⟨rfl, rfl⟩

/-- **The choice of shift operand is confined to shifts.** Machines that differ in that choice alone
answer a history alike, and differ in nothing else from its beginning to its end, if every shift that
is executed finds the same value in both of its registers; as it does in particular if every shift
names one register twice. -/
theorem shift_choice_confined {history : List Operation} (same : left.shiftless = right.shiftless) :
    (AlongBlind ShiftsAlike left history → Indistinguishable shiftless left right history) ∧
      ((∀ ins ∈ left.executed history, ins.ShiftsInPlace) →
        Indistinguishable shiftless left right history) := by
  have confined : AlongBlind ShiftsAlike left history →
      Indistinguishable shiftless left right history := hides_shift.indistinguishable same
  refine ⟨confined, fun inPlace => confined ?_⟩
  refine (alongBlind_of_executed inPlace).imp fun machine operation plain ins done => ?_
  exact machine.shiftsAlike_of_shiftsInPlace (plain ins done)

/-- Two registers, of which VF is one, that hold the same when one of them is shifted. -/
def sharing : List Operation :=
  [.execute (.setByte 0xF 0x81), .execute (.setByte 1 0x81), .tick, .execute (.shiftRight 1 0xF)]

/-- A shift, a reset, and a program that is loaded and shifts in place. -/
def shifting : List Operation :=
  [.execute (.shiftLeft 0xF 0xF), .reset, .load [0x62, 0x05, 0x82, 0x26], .step, .step]

/-- The two choices cannot be told apart while VF is shifted into another register that holds the same
value, nor across a reset by shifts that name one register twice. -/
theorem shift_choice_confined_sharing :
    initial.shift ≠ (initial.withShift .vy).shift ∧
      (initial.performAll sharing).registers.get 1 = 0x40 ∧
      Indistinguishable shiftless initial (initial.withShift .vy) sharing ∧
      Indistinguishable shiftless initial (initial.withShift .vy) shifting := by
  have same : initial.shiftless = (initial.withShift .vy).shiftless := rfl
  have equal : (initial.performAll (sharing.take 3)).value 1 =
      (initial.performAll (sharing.take 3)).value 0xF := by decide +kernel
  have alike : AlongBlind ShiftsAlike initial sharing := by
    refine ⟨?_, ?_, ?_, ?_, trivial⟩
    all_goals
      intro ins done
      cases done
    · trivial
    · trivial
    · exact equal
  have executed : initial.executed shifting =
      [.shiftLeft 0xF 0xF, .setByte 2 5, .shiftRight 2 2] := by decide +kernel
  have inPlace : ∀ ins ∈ initial.executed shifting, ins.ShiftsInPlace := by
    rw [executed]
    simp [Instruction.ShiftsInPlace]
  exact ⟨by decide, by decide +kernel, (shift_choice_confined same).1 alike,
    (shift_choice_confined same).2 inPlace⟩

end Machine

end Chip8
