import Chip8.Instruction.Decode
import Chip8.Instruction.Encode

/-!
# Patterns of words

The pattern of an instruction writes it as a word. Every digit of the word is prescribed, but
for the last digit of 5XY and 9XY, which is left open. Decoding is the exact inverse: a word
decodes to an instruction if and only if the instruction's pattern writes the word
(`decode_eq_iff`), and to the word itself if and only if no pattern writes it
(`decode_eq_unimplemented_iff`).
-/
namespace Chip8

namespace Word

/-- A word made of a family digit and an address has these fields. -/
theorem fields_address {word address : UInt16} {digit : Nat} (fits : address.toNat < 0x1000)
    (made : word.toNat = digit * 0x1000 + address.toNat) :
    family word = digit ∧ Word.address word = address := by
  constructor
  · simp only [family]
    omega
  · apply UInt16.toNat_inj.1
    rw [toNat_address]
    omega

/-- A word made of a family digit, a register and a byte has these fields. -/
theorem fields_byte {word : UInt16} {digit : Nat} {register value : UInt8}
    (fits : register.toNat < 16)
    (made : word.toNat = digit * 0x1000 + register.toNat * 0x100 + value.toNat) :
    family word = digit ∧ x word = register ∧ byte word = value := by
  have small := value.toNat_lt
  refine ⟨?_, ?_, ?_⟩
  · simp only [family]
    omega
  · apply UInt8.toNat_inj.1
    rw [toNat_x]
    omega
  · apply UInt8.toNat_inj.1
    rw [toNat_byte]
    omega

/-- A word made of a family digit, two registers and a last digit has these fields. -/
theorem fields_digits {word : UInt16} {digit last : Nat} {first second : UInt8}
    (firstFits : first.toNat < 16) (secondFits : second.toNat < 16) (lastFits : last < 16)
    (made : word.toNat =
      digit * 0x1000 + first.toNat * 0x100 + second.toNat * 0x10 + last) :
    family word = digit ∧ x word = first ∧ y word = second ∧ (nibble word).toNat = last := by
  refine ⟨?_, ?_, ?_, ?_⟩
  · simp only [family]
    omega
  · apply UInt8.toNat_inj.1
    rw [toNat_x]
    omega
  · apply UInt8.toNat_inj.1
    rw [toNat_y]
    omega
  · rw [toNat_nibble]
    omega

/-- The family digit and the two registers of a word do not depend on its last digit. -/
theorem fields_open {word : UInt16} {digit last : Nat} {first second : UInt8}
    (firstFits : first.toNat < 16) (secondFits : second.toNat < 16)
    (lastFits : last < 16)
    (made : word.toNat / 16 =
      (digit * 0x1000 + first.toNat * 0x100 + second.toNat * 0x10 + last) / 16) :
    family word = digit ∧ x word = first ∧ y word = second := by
  have whole : word.toNat =
      digit * 0x1000 + first.toNat * 0x100 + second.toNat * 0x10 + word.toNat % 16 := by
    omega
  obtain ⟨family, register, other, _⟩ :=
    fields_digits firstFits secondFits (Nat.mod_lt _ (by decide)) whole
  exact ⟨family, register, other⟩

end Word

namespace Instruction

/-- How many words the pattern of an instruction writes it as: sixteen where the last digit is
left open and one elsewhere. -/
def spellings : Instruction → Nat
  | .skipIfSame _ _ | .skipUnlessSame _ _ => 16
  | _ => 1

/-- The pattern of an instruction writes a word when the operands fit and the word agrees with
the written form in every digit that is not left open. -/
def Written (word : UInt16) (ins : Instruction) : Prop :=
  ins.Encodable ∧ word.toNat / ins.spellings = ins.encode.toNat / ins.spellings

/-- A word that is no instruction has no pattern. -/
theorem not_written_unimplemented (word value : UInt16) :
    ¬Written word (.unimplemented value) :=
  fun written => written.1

/-- A pattern writes the written form. -/
theorem written_of_eq {word : UInt16} {ins : Instruction} (fits : ins.Encodable)
    (same : word = ins.encode) : Written word ins :=
  ⟨fits, by rw [same]⟩

/-- A family digit and an address fill the word. -/
theorem toNat_wordOfAddress {digit : Nat} {address : UInt16} (family : digit < 16)
    (fits : address.toNat < 0x1000) :
    (wordOfAddress digit address).toNat = digit * 0x1000 + address.toNat := by
  rw [wordOfAddress, UInt16.toNat_ofNat']
  omega

/-- A family digit, a register and a byte fill the word. -/
theorem toNat_wordOfByte {digit : Nat} {register value : UInt8} (family : digit < 16)
    (fits : register.toNat < 16) :
    (wordOfByte digit register value).toNat =
      digit * 0x1000 + register.toNat * 0x100 + value.toNat := by
  have small := value.toNat_lt
  rw [wordOfByte, UInt16.toNat_ofNat']
  omega

/-- A family digit, two registers and a last digit fill the word. -/
theorem toNat_wordOfDigits {digit last : Nat} {first second : UInt8} (family : digit < 16)
    (firstFits : first.toNat < 16) (secondFits : second.toNat < 16) (lastFits : last < 16) :
    (wordOfDigits digit first second last).toNat =
      digit * 0x1000 + first.toNat * 0x100 + second.toNat * 0x10 + last := by
  rw [wordOfDigits, UInt16.toNat_ofNat']
  omega

/-- A word is its family digit followed by its address. -/
theorem wordOfAddress_fields (word : UInt16) :
    wordOfAddress (Word.family word) (Word.address word) = word := by
  apply UInt16.toNat_inj.1
  have address := Word.toNat_address word
  rw [toNat_wordOfAddress (Word.family_lt word) (by omega), address]
  simp only [Word.family]
  omega

/-- A word is its family digit followed by a register and a byte. -/
theorem wordOfByte_fields (word : UInt16) :
    wordOfByte (Word.family word) (Word.x word) (Word.byte word) = word := by
  apply UInt16.toNat_inj.1
  have register := Word.toNat_x word
  have value := Word.toNat_byte word
  rw [toNat_wordOfByte (Word.family_lt word) (by omega), register, value]
  simp only [Word.family]
  omega

/-- A word is its family digit followed by two registers and a last digit. -/
theorem wordOfDigits_fields (word : UInt16) :
    wordOfDigits (Word.family word) (Word.x word) (Word.y word) (Word.nibble word).toNat =
      word := by
  apply UInt16.toNat_inj.1
  have first := Word.toNat_x word
  have second := Word.toNat_y word
  have last := Word.toNat_nibble word
  rw [toNat_wordOfDigits (Word.family_lt word) (by omega) (by omega) (by omega), first, second,
    last]
  simp only [Word.family]
  omega

/-- The digit X names a register. -/
theorem x_lt (word : UInt16) : (Word.x word).toNat < 16 := by
  rw [Word.toNat_x]
  omega

/-- The digit Y names a register. -/
theorem y_lt (word : UInt16) : (Word.y word).toNat < 16 := by
  rw [Word.toNat_y]
  omega

/-- The digit N is a digit. -/
theorem nibble_lt (word : UInt16) : (Word.nibble word).toNat < 16 := by
  rw [Word.toNat_nibble]
  omega

/-- A word decodes to every instruction whose pattern writes it. -/
theorem decode_of_written {word : UInt16} {ins : Instruction} (written : Written word ins) :
    decode word = ins := by
  obtain ⟨fits, made⟩ := written
  cases ins with
  | clear | ret =>
    simp only [spellings, Nat.div_one, encode] at made
    obtain rfl := UInt16.toNat_inj.1 made
    rfl
  | jump target | call target | setIndex target | jumpOffset target =>
    simp only [spellings, Nat.div_one, encode] at made
    rw [toNat_wordOfAddress (by decide) fits] at made
    obtain ⟨family, address⟩ := Word.fields_address fits made
    simp only [decode, family, address]
  | skipIfByte x value | skipUnlessByte x value | setByte x value | addByte x value
  | random x value =>
    simp only [spellings, Nat.div_one, encode] at made
    rw [toNat_wordOfByte (by decide) fits] at made
    obtain ⟨family, register, byte⟩ := Word.fields_byte fits made
    simp only [decode, family, register, byte]
  | skipIfSame x y | skipUnlessSame x y =>
    simp only [spellings, encode] at made
    rw [toNat_wordOfDigits (by decide) fits.1 fits.2 (by decide)] at made
    obtain ⟨family, first, second⟩ := Word.fields_open fits.1 fits.2 (by decide) made
    simp only [decode, family, first, second]
  | copy x y | or x y | and x y | xor x y | add x y | subtract x y | shiftRight x y
  | subtractFrom x y | shiftLeft x y =>
    simp only [spellings, Nat.div_one, encode] at made
    rw [toNat_wordOfDigits (by decide) fits.1 fits.2 (by decide)] at made
    obtain ⟨family, first, second, last⟩ := Word.fields_digits fits.1 fits.2 (by decide) made
    simp only [decode, family, first, second, ofArithmetic?, last, Option.getD_some]
  | draw x y height =>
    obtain ⟨xFits, yFits, heightFits⟩ := fits
    simp only [spellings, Nat.div_one, encode] at made
    rw [toNat_wordOfDigits (by decide) xFits yFits heightFits] at made
    obtain ⟨family, first, second, last⟩ := Word.fields_digits xFits yFits heightFits made
    simp only [decode, family, first, second, UInt8.toNat_inj.1 last]
  | skipIfKey x | skipUnlessKey x =>
    simp only [spellings, Nat.div_one, encode] at made
    rw [toNat_wordOfByte (by decide) fits] at made
    obtain ⟨family, register, byte⟩ := Word.fields_byte fits made
    simp only [decode, family, register, byte, ofKeypad?, UInt8.reduceToNat, Option.getD_some]
  | readDelay x | awaitKey x | setDelay x | setSound x | addIndex x | pointGlyph x
  | storeDecimal x | storeRegisters x | loadRegisters x =>
    simp only [spellings, Nat.div_one, encode] at made
    rw [toNat_wordOfByte (by decide) fits] at made
    obtain ⟨family, register, byte⟩ := Word.fields_byte fits made
    simp only [decode, family, register, byte, ofDevice?, UInt8.reduceToNat, Option.getD_some]
  | unimplemented value => exact absurd fits id

/-- The two system words are written by their patterns. -/
theorem written_ofSystem? {word : UInt16} {ins : Instruction}
    (found : ofSystem? word = some ins) : Written word ins := by
  unfold ofSystem? at found
  split at found
  · rename_i clears
    obtain rfl := Option.some.inj found
    exact written_of_eq trivial clears
  · split at found
    · rename_i returns
      obtain rfl := Option.some.inj found
      exact written_of_eq trivial returns
    · cases found

/-- An operation on two registers is written by its pattern. -/
theorem written_ofArithmetic? {word : UInt16} {ins : Instruction} (family : Word.family word = 8)
    (found : ofArithmetic? (Word.x word) (Word.y word) (Word.nibble word) = some ins) :
    Written word ins := by
  have whole := wordOfDigits_fields word
  rw [family] at whole
  unfold ofArithmetic? at found
  split at found
  case h_10 => cases found
  all_goals
    rename_i last
    rw [last] at whole
    obtain rfl := Option.some.inj found
    exact written_of_eq ⟨x_lt word, y_lt word⟩ whole.symm

/-- A word whose last byte has a given value is made with that value. -/
theorem wordOfByte_value {word : UInt16} {digit value : Nat} (family : Word.family word = digit)
    (last : (Word.byte word).toNat = value) :
    word = wordOfByte digit (Word.x word) (UInt8.ofNat value) := by
  rw [← family, ← last, UInt8.ofNat_toNat, wordOfByte_fields]

/-- A test of the keypad is written by its pattern. -/
theorem written_ofKeypad? {word : UInt16} {ins : Instruction} (family : Word.family word = 14)
    (found : ofKeypad? (Word.x word) (Word.byte word) = some ins) : Written word ins := by
  unfold ofKeypad? at found
  split at found
  case h_3 => cases found
  all_goals
    rename_i last
    have whole := wordOfByte_value family last
    obtain rfl := Option.some.inj found
    exact written_of_eq (x_lt word) whole

/-- An operation on a device is written by its pattern. -/
theorem written_ofDevice? {word : UInt16} {ins : Instruction} (family : Word.family word = 15)
    (found : ofDevice? (Word.x word) (Word.byte word) = some ins) : Written word ins := by
  unfold ofDevice? at found
  split at found
  case h_10 => cases found
  all_goals
    rename_i last
    have whole := wordOfByte_value family last
    obtain rfl := Option.some.inj found
    exact written_of_eq (x_lt word) whole

/-- A choice among instructions yields one that was found, or the word itself. -/
theorem getD_cases {word : UInt16} {found : Option Instruction}
    (written : ∀ ins, found = some ins → Written word ins) :
    Written word (found.getD (.unimplemented word)) ∨
      found.getD (.unimplemented word) = .unimplemented word := by
  cases found with
  | none => exact .inr rfl
  | some ins => exact .inl (written ins rfl)

/-- Every word is written by the pattern of the instruction it decodes to, or decodes to
itself. -/
theorem written_decode (word : UInt16) :
    Written word (decode word) ∨ decode word = .unimplemented word := by
  have addressFits : (Word.address word).toNat < 0x1000 := by
    rw [Word.toNat_address]
    omega
  have wholeAddress := wordOfAddress_fields word
  have wholeByte := wordOfByte_fields word
  have wholeDigits := wordOfDigits_fields word
  have bound := Word.family_lt word
  unfold decode
  dsimp only
  split
  case h_1 => exact getD_cases fun ins found => written_ofSystem? found
  case h_9 family => exact getD_cases fun ins found => written_ofArithmetic? family found
  case h_15 family => exact getD_cases fun ins found => written_ofKeypad? family found
  case h_16 =>
    have family : Word.family word = 15 := by grind
    exact getD_cases fun ins found => written_ofDevice? family found
  case h_14 family =>
    rw [family] at wholeDigits
    exact .inl (written_of_eq ⟨x_lt word, y_lt word, nibble_lt word⟩ wholeDigits.symm)
  case h_6 family | h_10 family =>
    rw [family] at wholeDigits
    refine .inl ⟨⟨x_lt word, y_lt word⟩, ?_⟩
    simp only [spellings, encode]
    rw [toNat_wordOfDigits (by decide) (x_lt word) (y_lt word) (by decide)]
    have whole := congrArg UInt16.toNat wholeDigits
    rw [toNat_wordOfDigits (by decide) (x_lt word) (y_lt word) (nibble_lt word)] at whole
    have last := nibble_lt word
    omega
  case h_2 family | h_3 family | h_11 family | h_12 family =>
    rw [family] at wholeAddress
    exact .inl (written_of_eq addressFits wholeAddress.symm)
  all_goals
    rename_i family
    rw [family] at wholeByte
    exact .inl (written_of_eq (x_lt word) wholeByte.symm)

/-- **Decoding inverts the patterns.** A word decodes to an instruction if and only if the
pattern of the instruction writes the word. -/
theorem decode_eq_iff {word : UInt16} {ins : Instruction}
    (implemented : ∀ value, ins ≠ .unimplemented value) :
    decode word = ins ↔ Written word ins := by
  constructor
  · rintro rfl
    rcases written_decode word with written | nothing
    · exact written
    · exact absurd nothing (implemented word)
  · exact decode_of_written

/-- A word decodes to a word that is no instruction if and only if it is that word and no
pattern writes it. -/
theorem decode_eq_unimplemented_iff {word value : UInt16} :
    decode word = .unimplemented value ↔ value = word ∧ ∀ ins, ¬Written word ins := by
  constructor
  · intro nothing
    rcases written_decode word with written | same
    · rw [nothing] at written
      exact absurd written (not_written_unimplemented word value)
    · rw [nothing] at same
      refine ⟨Instruction.unimplemented.inj same, fun ins written => ?_⟩
      rw [decode_of_written written] at nothing
      rw [nothing] at written
      exact not_written_unimplemented word value written
  · rintro ⟨rfl, unwritten⟩
    rcases written_decode value with written | same
    · exact absurd written (unwritten _)
    · exact same

end Instruction

end Chip8
