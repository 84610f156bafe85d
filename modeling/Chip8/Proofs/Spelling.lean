import Chip8.Instruction.Text
import Chip8.Proofs.Patterns

/-!
# Instructions spelled digit by digit

The table of instructions gives each a pattern of four digits, such as 8XY4 or ANNN. Some digits are
prescribed, the letters X, Y and N stand for the digits of the operands, and the last digit of 5XY and
of 9XY may be any. An instruction spells a word if the prescribed digits stand in their places and the
digits at the places of each letter, read from left to right, make the operand of that letter. Nothing
here computes with whole words, and yet it comes to the same as the written form
(`spells_iff_written`). Decoding finds the instruction that spells a word, tells two words apart unless
they differ in a digit that may be any, and keeps a word as it is exactly if the word fits no pattern
(`decode_exact`).
-/
namespace Chip8

/-- What a pattern says of one digit of a word. -/
inductive Place where
  /-- The digit is prescribed. -/
  | digit (value : Nat)
  /-- The digit is the operand X. -/
  | x
  /-- The digit is the operand Y. -/
  | y
  /-- The digit belongs to the operand N, NN or NNN. -/
  | n
  /-- Any digit may stand here. -/
  | any
deriving DecidableEq, Repr

namespace Place

/-- A prescribed digit admits only itself, and any other place every digit. -/
def Admits (place : Place) (found : Nat) : Prop :=
  match place with
  | .digit value => found = value
  | .x | .y | .n | .any => True

/-- Every digit is admitted at its place, and there are as many of them as places. -/
def AdmitAll : List Place → List Nat → Prop
  | [], [] => True
  | place :: places, found :: others => place.Admits found ∧ AdmitAll places others
  | _, _ => False

/-- The number that the digits at the places of a letter make, the most significant first. -/
def number (letter : Place) (places : List Place) (digits : List Nat) : Nat :=
  ((places.zip digits).filter fun pair => pair.1 = letter).foldl
    (fun total pair => total * 0x10 + pair.2) 0

/-- The numbers of the letters that a pattern has, in the order of operands. -/
def numbers (places : List Place) (digits : List Nat) : List Nat :=
  ([x, y, n].filter fun letter => letter ∈ places).map fun letter => number letter places digits

end Place

namespace Word

/-- The four digits of a word, the most significant first. -/
def digits (word : UInt16) : List Nat :=
  [word.toNat / 0x1000, word.toNat / 0x100 % 0x10, word.toNat / 0x10 % 0x10, word.toNat % 0x10]

/-- Two words differ in no digit but the last of 5XY or of 9XY. -/
def Twins (first second : UInt16) : Prop :=
  (family first = 0x5 ∧ family second = 0x5 ∨ family first = 0x9 ∧ family second = 0x9) ∧
    x first = x second ∧ y first = y second

end Word

namespace Instruction

open Place (numbers AdmitAll)

/-- The pattern of an instruction in the table. A word that is no instruction has none. -/
def pattern : Instruction → List Place
  | .clear => [.digit 0x0, .digit 0x0, .digit 0xE, .digit 0x0]
  | .ret => [.digit 0x0, .digit 0x0, .digit 0xE, .digit 0xE]
  | .jump _ => [.digit 0x1, .n, .n, .n]
  | .call _ => [.digit 0x2, .n, .n, .n]
  | .skipIfByte _ _ => [.digit 0x3, .x, .n, .n]
  | .skipUnlessByte _ _ => [.digit 0x4, .x, .n, .n]
  | .skipIfSame _ _ => [.digit 0x5, .x, .y, .any]
  | .setByte _ _ => [.digit 0x6, .x, .n, .n]
  | .addByte _ _ => [.digit 0x7, .x, .n, .n]
  | .copy _ _ => [.digit 0x8, .x, .y, .digit 0x0]
  | .or _ _ => [.digit 0x8, .x, .y, .digit 0x1]
  | .and _ _ => [.digit 0x8, .x, .y, .digit 0x2]
  | .xor _ _ => [.digit 0x8, .x, .y, .digit 0x3]
  | .add _ _ => [.digit 0x8, .x, .y, .digit 0x4]
  | .subtract _ _ => [.digit 0x8, .x, .y, .digit 0x5]
  | .shiftRight _ _ => [.digit 0x8, .x, .y, .digit 0x6]
  | .subtractFrom _ _ => [.digit 0x8, .x, .y, .digit 0x7]
  | .shiftLeft _ _ => [.digit 0x8, .x, .y, .digit 0xE]
  | .skipUnlessSame _ _ => [.digit 0x9, .x, .y, .any]
  | .setIndex _ => [.digit 0xA, .n, .n, .n]
  | .jumpOffset _ => [.digit 0xB, .n, .n, .n]
  | .random _ _ => [.digit 0xC, .x, .n, .n]
  | .draw _ _ _ => [.digit 0xD, .x, .y, .n]
  | .skipIfKey _ => [.digit 0xE, .x, .digit 0x9, .digit 0xE]
  | .skipUnlessKey _ => [.digit 0xE, .x, .digit 0xA, .digit 0x1]
  | .readDelay _ => [.digit 0xF, .x, .digit 0x0, .digit 0x7]
  | .awaitKey _ => [.digit 0xF, .x, .digit 0x0, .digit 0xA]
  | .setDelay _ => [.digit 0xF, .x, .digit 0x1, .digit 0x5]
  | .setSound _ => [.digit 0xF, .x, .digit 0x1, .digit 0x8]
  | .addIndex _ => [.digit 0xF, .x, .digit 0x1, .digit 0xE]
  | .pointGlyph _ => [.digit 0xF, .x, .digit 0x2, .digit 0x9]
  | .storeDecimal _ => [.digit 0xF, .x, .digit 0x3, .digit 0x3]
  | .storeRegisters _ => [.digit 0xF, .x, .digit 0x5, .digit 0x5]
  | .loadRegisters _ => [.digit 0xF, .x, .digit 0x6, .digit 0x5]
  | .unimplemented _ => []

/-- A word fits the pattern of an instruction, whatever its operands. -/
def Fits (ins : Instruction) (word : UInt16) : Prop := AdmitAll ins.pattern (Word.digits word)

/-- An instruction spells a word: the word fits the pattern, and its digits make the operands. -/
def Spells (ins : Instruction) (word : UInt16) : Prop :=
  ins.Fits word ∧ numbers ins.pattern (Word.digits word) = ins.operandValues

variable {ins : Instruction} {word first second : UInt16}

/-- Spelled with the family digit and an address. -/
theorem spelled_address_iff {digit : Nat} {target : UInt16} (family : digit < 0x10) :
    AdmitAll [.digit digit, .n, .n, .n] (Word.digits word) ∧
        numbers [.digit digit, .n, .n, .n] (Word.digits word) = [target.toNat] ↔
      target.toNat < 0x1000 ∧ word.toNat = (wordOfAddress digit target).toNat := by
  have bound := word.toNat_lt
  have made : target.toNat < 0x1000 →
      (wordOfAddress digit target).toNat = digit * 0x1000 + target.toNat :=
    toNat_wordOfAddress family
  show (word.toNat / 0x1000 = digit ∧ True ∧ True ∧ True ∧ True) ∧
    [((0 * 0x10 + word.toNat / 0x100 % 0x10) * 0x10 + word.toNat / 0x10 % 0x10) * 0x10 +
      word.toNat % 0x10] = [target.toNat] ↔ _
  simp only [List.cons.injEq, and_true]
  omega

/-- Spelled with the family digit, a register and a byte. -/
theorem spelled_byte_iff {digit : Nat} {register value : UInt8} (family : digit < 0x10) :
    AdmitAll [.digit digit, .x, .n, .n] (Word.digits word) ∧
        numbers [.digit digit, .x, .n, .n] (Word.digits word) = [register.toNat, value.toNat] ↔
      register.toNat < 16 ∧ word.toNat = (wordOfByte digit register value).toNat := by
  have bound := word.toNat_lt
  have small := value.toNat_lt
  have made : register.toNat < 16 → (wordOfByte digit register value).toNat =
      digit * 0x1000 + register.toNat * 0x100 + value.toNat :=
    toNat_wordOfByte family
  show (word.toNat / 0x1000 = digit ∧ True ∧ True ∧ True ∧ True) ∧
    [0 * 0x10 + word.toNat / 0x100 % 0x10,
      (0 * 0x10 + word.toNat / 0x10 % 0x10) * 0x10 + word.toNat % 0x10] =
        [register.toNat, value.toNat] ↔ _
  simp only [List.cons.injEq, and_true]
  omega

/-- Spelled with the family digit, two registers and a last digit that is prescribed. -/
theorem spelled_digits_iff {digit last : Nat} {x y : UInt8} (family : digit < 0x10)
    (prescribed : last < 0x10) :
    AdmitAll [.digit digit, .x, .y, .digit last] (Word.digits word) ∧
        numbers [.digit digit, .x, .y, .digit last] (Word.digits word) = [x.toNat, y.toNat] ↔
      (x.toNat < 16 ∧ y.toNat < 16) ∧ word.toNat = (wordOfDigits digit x y last).toNat := by
  have bound := word.toNat_lt
  have made : x.toNat < 16 → y.toNat < 16 → (wordOfDigits digit x y last).toNat =
      digit * 0x1000 + x.toNat * 0x100 + y.toNat * 0x10 + last :=
    fun xFits yFits => toNat_wordOfDigits family xFits yFits prescribed
  show (word.toNat / 0x1000 = digit ∧ True ∧ True ∧ word.toNat % 0x10 = last ∧ True) ∧
    [0 * 0x10 + word.toNat / 0x100 % 0x10, 0 * 0x10 + word.toNat / 0x10 % 0x10] =
      [x.toNat, y.toNat] ↔ _
  simp only [List.cons.injEq, and_true, true_and]
  omega

/-- Spelled with the family digit and two registers, while the last digit may be any. -/
theorem spelled_open_iff {digit : Nat} {x y : UInt8} (family : digit < 0x10) :
    AdmitAll [.digit digit, .x, .y, .any] (Word.digits word) ∧
        numbers [.digit digit, .x, .y, .any] (Word.digits word) = [x.toNat, y.toNat] ↔
      (x.toNat < 16 ∧ y.toNat < 16) ∧ word.toNat / 16 = (wordOfDigits digit x y 0).toNat / 16 := by
  have bound := word.toNat_lt
  have made : x.toNat < 16 → y.toNat < 16 → (wordOfDigits digit x y 0).toNat =
      digit * 0x1000 + x.toNat * 0x100 + y.toNat * 0x10 + 0 :=
    fun xFits yFits => toNat_wordOfDigits family xFits yFits (by decide)
  show (word.toNat / 0x1000 = digit ∧ True ∧ True ∧ True ∧ True) ∧
    [0 * 0x10 + word.toNat / 0x100 % 0x10, 0 * 0x10 + word.toNat / 0x10 % 0x10] =
      [x.toNat, y.toNat] ↔ _
  simp only [List.cons.injEq, and_true]
  omega

/-- Spelled with the family digit, two registers and a small constant. -/
theorem spelled_height_iff {digit : Nat} {x y height : UInt8} (family : digit < 0x10) :
    AdmitAll [.digit digit, .x, .y, .n] (Word.digits word) ∧
        numbers [.digit digit, .x, .y, .n] (Word.digits word) =
          [x.toNat, y.toNat, height.toNat] ↔
      (x.toNat < 16 ∧ y.toNat < 16 ∧ height.toNat < 16) ∧
        word.toNat = (wordOfDigits digit x y height.toNat).toNat := by
  have bound := word.toNat_lt
  have made : x.toNat < 16 → y.toNat < 16 → height.toNat < 16 →
      (wordOfDigits digit x y height.toNat).toNat =
        digit * 0x1000 + x.toNat * 0x100 + y.toNat * 0x10 + height.toNat :=
    fun xFits yFits => toNat_wordOfDigits family xFits yFits
  show (word.toNat / 0x1000 = digit ∧ True ∧ True ∧ True ∧ True) ∧
    [0 * 0x10 + word.toNat / 0x100 % 0x10, 0 * 0x10 + word.toNat / 0x10 % 0x10,
      0 * 0x10 + word.toNat % 0x10] = [x.toNat, y.toNat, height.toNat] ↔ _
  simp only [List.cons.injEq, and_true]
  omega

/-- Spelled with the family digit, a register and two digits that are prescribed. -/
theorem spelled_register_iff {digit high low : Nat} {x value : UInt8} (family : digit < 0x10)
    (lowFits : low < 0x10) (prescribed : value.toNat = high * 0x10 + low) :
    AdmitAll [.digit digit, .x, .digit high, .digit low] (Word.digits word) ∧
        numbers [.digit digit, .x, .digit high, .digit low] (Word.digits word) = [x.toNat] ↔
      x.toNat < 16 ∧ word.toNat = (wordOfByte digit x value).toNat := by
  have bound := word.toNat_lt
  have small := value.toNat_lt
  have made : x.toNat < 16 →
      (wordOfByte digit x value).toNat = digit * 0x1000 + x.toNat * 0x100 + value.toNat :=
    toNat_wordOfByte family
  show (word.toNat / 0x1000 = digit ∧ True ∧ word.toNat / 0x10 % 0x10 = high ∧
    word.toNat % 0x10 = low ∧ True) ∧ [0 * 0x10 + word.toNat / 0x100 % 0x10] = [x.toNat] ↔ _
  simp only [List.cons.injEq, and_true, true_and]
  omega

/-- Spelled with four digits that are prescribed. -/
theorem spelled_system_iff {last : Nat} (prescribed : last < 0x10) :
    AdmitAll [.digit 0x0, .digit 0x0, .digit 0xE, .digit last] (Word.digits word) ∧
        numbers [.digit 0x0, .digit 0x0, .digit 0xE, .digit last] (Word.digits word) = [] ↔
      True ∧ word.toNat = 0xE0 + last := by
  show (word.toNat / 0x1000 = 0x0 ∧ word.toNat / 0x100 % 0x10 = 0x0 ∧
    word.toNat / 0x10 % 0x10 = 0xE ∧ word.toNat % 0x10 = last ∧ True) ∧ [] = [] ↔ _
  simp only [and_true, true_and]
  omega

/-- Where no digit is left open a pattern writes just the written form. -/
theorem written_iff_of_single (single : ins.spellings = 1) :
    Written word ins ↔ ins.Encodable ∧ word.toNat = ins.encode.toNat := by
  rw [Written, single, Nat.div_one, Nat.div_one]

/-- **Two ways of writing.** An instruction spells a word digit by digit exactly if its pattern writes
the word. -/
theorem spells_iff_written : ins.Spells word ↔ Written word ins := by
  cases ins with
  | clear | ret =>
    rw [written_iff_of_single]
    · exact spelled_system_iff (by decide)
    · rfl
  | jump target | call target | setIndex target | jumpOffset target =>
    rw [written_iff_of_single]
    · exact spelled_address_iff (by decide)
    · rfl
  | skipIfByte x value | skipUnlessByte x value | setByte x value | addByte x value
  | random x value =>
    rw [written_iff_of_single]
    · exact spelled_byte_iff (by decide)
    · rfl
  | skipIfSame x y | skipUnlessSame x y => exact spelled_open_iff (by decide)
  | copy x y | or x y | and x y | xor x y | add x y | subtract x y | shiftRight x y
  | subtractFrom x y | shiftLeft x y =>
    rw [written_iff_of_single]
    · exact spelled_digits_iff (by decide) (by decide)
    · rfl
  | draw x y height =>
    rw [written_iff_of_single]
    · exact spelled_height_iff (by decide)
    · rfl
  | skipIfKey x | skipUnlessKey x | readDelay x | awaitKey x | setDelay x | setSound x | addIndex x
  | pointGlyph x | storeDecimal x | storeRegisters x | loadRegisters x =>
    rw [written_iff_of_single]
    · exact spelled_register_iff (by decide) (by decide) (by decide)
    · rfl
  | unimplemented value =>
    exact iff_of_false (fun spells => spells.1) (not_written_unimplemented word value)

/-- The last two digits make the byte. -/
theorem byte_of_digits {high low : Nat} (third : word.toNat / 0x10 % 0x10 = high)
    (fourth : word.toNat % 0x10 = low) : (Word.byte word).toNat = high * 0x10 + low := by
  rw [Word.toNat_byte]
  omega

/-- Only the digits decide whether a word is kept as it is: a word that fits a pattern decodes to an
instruction. -/
theorem decode_ne_of_fits (fits : ins.Fits word) (value : UInt16) :
    decode word ≠ .unimplemented value := by
  have first : word.toNat / 0x1000 = Word.family word := rfl
  have last := Word.toNat_nibble word
  cases ins with
  | clear =>
    -- Without operands a word that fits is spelled.
    have spells : clear.Spells word := ⟨fits, rfl⟩
    rw [decode_of_written (spells_iff_written.1 spells)]
    simp
  | ret =>
    have spells : ret.Spells word := ⟨fits, rfl⟩
    rw [decode_of_written (spells_iff_written.1 spells)]
    simp
  | jump _ | call _ | skipIfByte _ _ | skipUnlessByte _ _ | skipIfSame _ _ | setByte _ _ | addByte _ _
  | skipUnlessSame _ _ | setIndex _ | jumpOffset _ | random _ _ | draw _ _ _ =>
    have family := first.symm.trans fits.1
    simp [decode, family]
  | copy _ _ | or _ _ | and _ _ | xor _ _ | add _ _ | subtract _ _ | shiftRight _ _
  | subtractFrom _ _ | shiftLeft _ _ =>
    have family := first.symm.trans fits.1
    have selected := last.trans fits.2.2.2.1
    simp [decode, family, ofArithmetic?, selected]
  | skipIfKey _ | skipUnlessKey _ =>
    have family := first.symm.trans fits.1
    have selected := byte_of_digits fits.2.2.1 fits.2.2.2.1
    simp [decode, family, ofKeypad?, selected]
  | readDelay _ | awaitKey _ | setDelay _ | setSound _ | addIndex _ | pointGlyph _
  | storeDecimal _ | storeRegisters _ | loadRegisters _ =>
    have family := first.symm.trans fits.1
    have selected := byte_of_digits fits.2.2.1 fits.2.2.2.1
    simp [decode, family, ofDevice?, selected]
  | unimplemented _ => exact fits.elim

/-- A word is kept as it is exactly if it fits no pattern. -/
theorem decode_eq_unimplemented_iff_fits {value : UInt16} :
    decode word = .unimplemented value ↔ value = word ∧ ∀ ins : Instruction, ¬ins.Fits word := by
  constructor
  · intro kept
    have same := (decode_eq_unimplemented_iff.1 kept).1
    exact ⟨same, fun ins fits => decode_ne_of_fits fits value kept⟩
  · rintro ⟨same, unfit⟩
    apply decode_eq_unimplemented_iff.2
    refine ⟨same, fun ins written => ?_⟩
    have spells : ins.Spells word := spells_iff_written.2 written
    exact unfit ins spells.1

/-- Two words written by one pattern with an open last digit share the family and both registers. -/
theorem shared_of_open {digit : Nat} {x y : UInt8} (family : digit < 0x10)
    (fits : x.toNat < 16 ∧ y.toNat < 16)
    (one : first.toNat / 16 = (wordOfDigits digit x y 0).toNat / 16)
    (other : second.toNat / 16 = (wordOfDigits digit x y 0).toNat / 16) :
    (Word.family first = digit ∧ Word.family second = digit) ∧
      Word.x first = Word.x second ∧ Word.y first = Word.y second := by
  obtain ⟨xFits, yFits⟩ := fits
  rw [toNat_wordOfDigits family xFits yFits (by decide)] at one other
  obtain ⟨digitOne, xOne, yOne⟩ := Word.fields_open xFits yFits (by decide) one
  obtain ⟨digitOther, xOther, yOther⟩ := Word.fields_open xFits yFits (by decide) other
  exact ⟨⟨digitOne, digitOther⟩, xOne.trans xOther.symm, yOne.trans yOther.symm⟩

/-- Two words that one instruction is written as are the same, or differ in a last digit that may be
any. -/
theorem eq_or_twins_of_written (one : Written first ins) (other : Written second ins) :
    first = second ∨ Word.Twins first second := by
  cases ins with
  | skipIfSame x y =>
    obtain ⟨families, registers⟩ := shared_of_open (by decide) one.1 one.2 other.2
    exact .inr ⟨.inl families, registers⟩
  | skipUnlessSame x y =>
    obtain ⟨families, registers⟩ := shared_of_open (by decide) one.1 one.2 other.2
    exact .inr ⟨.inr families, registers⟩
  | _ =>
    have made := (written_iff_of_single rfl).1 one
    have made' := (written_iff_of_single rfl).1 other
    exact .inl (UInt16.toNat_inj.1 (made.2.trans made'.2.symm))

/-- The digit that may be any is not looked at. -/
theorem decode_eq_of_twins (twins : Word.Twins first second) : decode first = decode second := by
  obtain ⟨families, register, compared⟩ := twins
  rcases families with ⟨family, family'⟩ | ⟨family, family'⟩
  · simp only [decode, family, family', register, compared]
  · simp only [decode, family, family', register, compared]

/-- Two words decode to the same exactly if they are the same or differ in a digit that may be
any. -/
theorem decode_eq_decode_iff :
    decode first = decode second ↔ first = second ∨ Word.Twins first second := by
  constructor
  · intro same
    rcases written_decode first with one | kept
    · rcases written_decode second with other | kept'
      · rw [← same] at other
        exact eq_or_twins_of_written one other
      · rw [same, kept'] at one
        exact absurd one (not_written_unimplemented first second)
    · rw [same] at kept
      exact .inl (decode_eq_unimplemented_iff.1 kept).1
  · rintro (rfl | twins)
    · rfl
    · exact decode_eq_of_twins twins

/-- An instruction whose operands fit spells its written form. -/
theorem spells_encode (fits : ins.Encodable) : ins.Spells ins.encode :=
  spells_iff_written.2 (written_of_eq fits rfl)

/-- **Decoding loses only a digit that may be any.** Two words decode to the same exactly if they are
the same word, or both of 5XY or both of 9XY with the same registers. An instruction whose operands fit
their digits spells a word, and each word that it spells decodes to it. A word is kept as it is, and
nothing else is made of it, exactly if it fits no pattern of the table. -/
theorem decode_exact :
    (∀ first second, decode first = decode second ↔ first = second ∨ Word.Twins first second) ∧
      (∀ ins : Instruction, ins.Encodable →
        ins.Spells ins.encode ∧ ∀ word, ins.Spells word → decode word = ins) ∧
      ∀ word value, decode word = .unimplemented value ↔
        value = word ∧ ∀ ins : Instruction, ¬ins.Fits word := by
  refine ⟨fun first second => decode_eq_decode_iff, fun ins fits => ?_, fun word value => ?_⟩
  · refine ⟨spells_encode fits, fun word spells => ?_⟩
    exact decode_of_written (spells_iff_written.1 spells)
  · exact decode_eq_unimplemented_iff_fits

/-- The word 8AB6 shifts the register VA, 5AB3 and 5AB9 decode to the same, and 8AB8 is kept. -/
theorem decode_exact_shifting :
    (decode 0x8AB6 = .shiftRight 0xA 0xB ∧ decode 0x5AB3 = decode 0x5AB9) ∧
      ∀ ins : Instruction, ¬ins.Fits 0x8AB8 := by
  obtain ⟨injective, covered, kept⟩ := decode_exact
  have fits : Encodable (.shiftRight 0xA 0xB) := ⟨by decide, by decide⟩
  obtain ⟨spells, decoded⟩ := covered (.shiftRight 0xA 0xB) fits
  have twins : Word.Twins 0x5AB3 0x5AB9 := by
    refine ⟨.inl ⟨?_, ?_⟩, ?_, ?_⟩ <;> decide
  refine ⟨⟨decoded 0x8AB6 spells, (injective _ _).2 (.inr twins)⟩, ?_⟩
  have unknown : decode 0x8AB8 = .unimplemented 0x8AB8 := by decide
  exact ((kept 0x8AB8 0x8AB8).1 unknown).2

end Instruction

end Chip8
