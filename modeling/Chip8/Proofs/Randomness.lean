import Chip8.Proofs.Hiding

/-!
# Where randomness enters

One instruction draws a byte from the random source, and nothing else touches the source: not an
instruction of another kind, not a reset and not the loading of a program. The source has therefore
advanced as often as that instruction was executed (`random_performAll`), and which byte is drawn is
known from the number of draws before it; from an arithmetic progression it is known in closed form
(`bytes_progression`). A byte that is masked by zero is drawn but not seen, so sources do not show
as long as every mask is zero (`hides_random`).
-/
namespace Chip8

namespace Generator

/-- The source after a number of draws. -/
def advance (generator : Generator) (count : Nat) : Generator :=
  { generator with drawn := generator.drawn + count }

/-- The draws of two periods add up. -/
theorem advance_advance (generator : Generator) (first second : Nat) :
    (generator.advance first).advance second = generator.advance (first + second) := by
  rw [advance, advance, advance, Nat.add_assoc]

/-- After its first byte a progression hands out what the progression does that begins an increment
later. -/
theorem bytes_progression_succ (value increment : UInt64) (draw : Nat) :
    (progression value increment).bytes (draw + 1) =
      (progression (value + increment) increment).bytes draw := by
  have moved : value + UInt64.ofNat (draw + 1) * increment =
      value + increment + UInt64.ofNat draw * increment := by
    have one : UInt64.ofNat 1 = 1 := rfl
    rw [Nat.add_comm, UInt64.ofNat_add, UInt64.add_mul, one, UInt64.one_mul, UInt64.add_assoc]
  show (value + UInt64.ofNat (draw + 1) * increment).toUInt8 = _
  rw [moved]
  rfl

/-- The bytes of a progression are the low bytes of the first value plus multiples of the
increment, modulo 2⁶⁴. -/
theorem bytes_progression (value increment : UInt64) (draw : Nat) :
    (progression value increment).bytes draw =
      UInt8.ofNat ((value.toNat + draw * increment.toNat) % UInt64.size % 256) := by
  induction draw generalizing value with
  | zero =>
    have small : value.toNat % UInt64.size = value.toNat := Nat.mod_eq_of_lt value.toNat_lt
    have first : (progression value increment).bytes 0 = value.toUInt8 := by
      have begun : UInt64.ofNat 0 * increment = 0 := UInt64.zero_mul
      show (value + UInt64.ofNat 0 * increment).toUInt8 = value.toUInt8
      rw [begun, UInt64.add_zero]
    rw [first, Nat.zero_mul, Nat.add_zero, small]
    refine UInt8.toNat_inj.1 ?_
    rw [UInt64.toNat_toUInt8, UInt8.toNat_ofNat']
    omega
  | succ draw inductionHypothesis =>
    have sum : (value + increment).toNat = (value.toNat + increment.toNat) % UInt64.size :=
      UInt64.toNat_add value increment
    have multiple : value.toNat + increment.toNat + draw * increment.toNat =
        value.toNat + (draw + 1) * increment.toNat := by
      rw [Nat.succ_mul]
      omega
    rw [bytes_progression_succ, inductionHypothesis, sum, Nat.mod_add_mod, multiple]

/-- After a number of draws the next byte of a progression is the one of that number. -/
theorem byte_advance_progression (value increment : UInt64) (count : Nat) :
    ((progression value increment).advance count).byte =
      UInt8.ofNat ((value.toNat + count * increment.toNat) % UInt64.size % 256) := by
  have reached : ((progression value increment).advance count).drawn = count := Nat.zero_add count
  rw [byte, reached]
  exact bytes_progression value increment count

end Generator

namespace Instruction

/-- Whether an instruction draws a random byte. -/
def isRandom : Instruction → Bool
  | .random _ _ => true
  | _ => false

/-- How many of some instructions draw a random byte. -/
def draws (executed : List Instruction) : Nat := executed.countP isRandom

/-- The instructions of two periods draw what those of each period draw. -/
theorem draws_append (earlier later : List Instruction) :
    draws (earlier ++ later) = draws earlier + draws later :=
  List.countP_append

/-- An instruction that shows nothing of the random source: it draws no byte, or masks all of it. -/
def Unseeded : Instruction → Prop
  | .random _ mask => mask = 0
  | _ => True

end Instruction

/-- An operation that does not supply another random source. -/
def Operation.KeepsSource : Operation → Prop
  | .supplyRandom _ => False
  | _ => True

/-- Keeping the source is read off the operation. -/
instance : DecidablePred Operation.KeepsSource
  | .supplyRandom _ => .isFalse id
  | .step | .execute _ | .tick | .latch _ | .setKey _ _ | .releaseKeys | .chooseShift _
  | .takeFrame | .load _ | .reset => .isTrue trivial

namespace Machine

open Instruction (draws draws_append)

variable {machine left right : Machine} {operation : Operation}

/-- The source advances once if the instruction draws, and not at all if it does not. -/
theorem random_effect (machine : Machine) (ins : Instruction) :
    (machine.effect ins).random = machine.random.advance (draws [ins]) := by
  rw [effect_eq_merged]
  cases ins with
  | _ => rfl

/-- An operation that keeps the source advances it by what it executes. -/
theorem random_perform (machine : Machine) (keeps : operation.KeepsSource) :
    (machine.perform operation).2.random =
      machine.random.advance (draws (machine.perform operation).1.executed?.toList) := by
  cases done : (machine.perform operation).1.executed? with
  | some ins =>
    rw [perform_of_executed done]
    exact machine.random_effect ins
  | none =>
    show (machine.perform operation).2.random = machine.random
    cases operation with
    | step | execute => rw [perform_of_idle done trivial]
    | load program =>
      obtain ⟨memory, loaded⟩ := machine.machine_load program
      show (machine.load program).machine.random = machine.random
      rw [loaded]
      rfl
    | supplyRandom => exact keeps.elim
    | _ => rfl

/-- A history that keeps the source advances it as often as it executes an instruction that draws,
whatever else it does. -/
theorem random_performAll {history : List Operation}
    (keeps : ∀ operation ∈ history, operation.KeepsSource) :
    (machine.performAll history).random =
      machine.random.advance (draws (machine.executed history)) := by
  induction history generalizing machine with
  | nil => rfl
  | cons operation later inductionHypothesis =>
    obtain ⟨first, rest⟩ := List.forall_mem_cons.1 keeps
    rw [performAll_cons, inductionHypothesis rest, machine.random_perform first, executed,
      draws_append, Generator.advance_advance]

/-- What is drawn is the next byte of the source, masked, and one register takes it. -/
theorem registers_of_drawn {x mask : UInt8}
    (done : (machine.perform operation).1.executed? = some (.random x mask)) :
    (machine.perform operation).2.registers =
      machine.registers.set x (machine.random.byte &&& mask) := by
  rw [perform_of_executed done, UInt8.and_comm]
  rfl

/-- A machine whose source was an arithmetic progression, after a number of draws. -/
structure Dealt (value increment : UInt64) (count : Nat) (machine : Machine) : Prop where
  /-- The source has advanced by that number. -/
  source : machine.random = (Generator.progression value increment).advance count
  /-- If the next operation draws, a register takes the low byte of the value that the progression
  has reached, masked. -/
  next : ∀ operation x mask, (machine.perform operation).1.executed? = some (.random x mask) →
    (machine.perform operation).2.registers =
      machine.registers.set x
        (UInt8.ofNat ((value.toNat + count * increment.toNat) % UInt64.size % 256) &&& mask)

/-- A machine that begins with a progression has drawn from it what it has executed. -/
theorem dealt_performAll {value increment : UInt64} {history : List Operation}
    (injected : machine.random = .progression value increment)
    (keeps : ∀ operation ∈ history, operation.KeepsSource) :
    Dealt value increment (draws (machine.executed history)) (machine.performAll history) := by
  have source : (machine.performAll history).random =
      (Generator.progression value increment).advance (draws (machine.executed history)) := by
    rw [random_performAll keeps, injected]
  refine ⟨source, fun operation x mask done => ?_⟩
  rw [registers_of_drawn done, source, Generator.byte_advance_progression]

/-- The machine with the source that always yields zero. -/
def seedless (machine : Machine) : Machine := { machine with random := Generator.zero }

/-- Machines that are the same without their sources differ in them alone. -/
theorem withRandom_of_seedless_eq (same : left.seedless = right.seedless) :
    right = left.withRandom right.random := by
  calc right
    _ = right.seedless.withRandom right.random := rfl
    _ = left.seedless.withRandom right.random := by rw [same]
    _ = left.withRandom right.random := rfl

/-- The random source shows through no instruction but those that draw from it and do not mask all
of the byte. -/
theorem hides_random : Hides seedless fun _ ins => ins.Unseeded := by
  constructor
  case aligned =>
    intro left right same
    rw [withRandom_of_seedless_eq same]
    exact ⟨rfl, rfl, rfl, rfl⟩
  case effect =>
    intro left right ins same unseeded
    rw [withRandom_of_seedless_eq same]
    generalize right.random = source
    cases ins with
    | random x mask =>
      have masked : mask = 0 := unseeded rfl
      have hidden : ∀ byte : UInt8, mask &&& byte = 0 := by
        intro byte
        rw [masked, UInt8.zero_and]
      rw [effect, effect, drawRandom, drawRandom, hidden, hidden]
      rfl
    | _ =>
      rw [effect_eq_merged, effect_eq_merged]
      rfl
  case host =>
    intro left right operation same host
    rw [withRandom_of_seedless_eq same]
    generalize right.random = source
    cases operation with
    | step | execute => exact absurd trivial host
    | load program => exact perform_load_alike program fun _ => rfl
    | _ => exact ⟨rfl, rfl⟩

/-- **Randomness enters by draws alone.** Inject an arithmetic progression modulo 2⁶⁴, of which a draw
takes the low byte, and perform any operations but supplying another source: the source has advanced
once for each instruction executed that draws, and the next one to draw, which so many preceded,
leaves in its register the masked low byte of the value reached. Machines that differ in their
sources alone answer a history alike, and differ in nothing else throughout, if everything that is
drawn is masked by zero. -/
theorem randomness_enters_by_draws :
    (∀ (machine : Machine) (value increment : UInt64) (history : List Operation),
      machine.random = .progression value increment →
      (∀ operation ∈ history, operation.KeepsSource) →
      Dealt value increment (draws (machine.executed history)) (machine.performAll history)) ∧
      ∀ (left right : Machine) (history : List Operation), left.seedless = right.seedless →
        (∀ ins ∈ left.executed history, ins.Unseeded) →
        Indistinguishable seedless left right history :=
  ⟨fun _ _ _ _ injected keeps => dealt_performAll injected keeps,
    fun _ _ _ same unseeded =>
      hides_random.indistinguishable same (alongBlind_of_executed unseeded)⟩

/-- A new machine with a source whose second value passes 2⁶⁴. -/
def dealer : Machine := initial.withRandom (.progression 0xFFFFFFFFFFFFFFFE 3)

/-- Two draws, one of which is masked by zero, with a reset and a program that is loaded. -/
def dealing : List Operation :=
  [.execute (.random 1 0xFF), .reset, .execute (.random 2 0), .load [0xC3, 0x0F]]

/-- After two draws the third takes the value that has passed 2⁶⁴, whatever was reset meanwhile; and
with every mask zero the source does not show. -/
theorem randomness_enters_by_draws_dealer :
    let after := dealer.performAll dealing
    after.random.drawn = 2 ∧ (after.perform .step).2.value 3 = 4 ∧
      dealer.random.byte ≠ initial.random.byte ∧
      Indistinguishable seedless dealer initial
        [.execute (.random 1 0), .tick, .load [0xC3, 0x00], .step] := by
  intro after
  have keeps : ∀ operation ∈ dealing, operation.KeepsSource := by decide
  have count : draws (dealer.executed dealing) = 2 := by decide +kernel
  have dealt : Dealt 0xFFFFFFFFFFFFFFFE 3 (draws (dealer.executed dealing)) after :=
    randomness_enters_by_draws.1 dealer _ _ dealing rfl keeps
  rw [count] at dealt
  have done : (after.perform .step).1.executed? = some (.random 3 0x0F) := by decide +kernel
  have third : (after.perform .step).2.value 3 = 4 := by
    rw [value, dealt.next .step 3 0x0F done, Registers.get_set, if_pos rfl]
    decide
  have executed : dealer.executed [.execute (.random 1 0), .tick, .load [0xC3, 0x00], .step] =
      [.random 1 0, .random 3 0] := by decide +kernel
  have unseeded : ∀ ins ∈
      dealer.executed [.execute (.random 1 0), .tick, .load [0xC3, 0x00], .step],
      ins.Unseeded := by
    rw [executed]
    simp [Instruction.Unseeded]
  refine ⟨?_, third, by decide, randomness_enters_by_draws.2 dealer initial _ rfl unseeded⟩
  rw [dealt.source]
  rfl

end Machine

end Chip8
