import Chip8.Proofs.Refusals
import Chip8.Proofs.Spelling
import Mathlib.Data.Nat.Digits.Defs

/-!
# A cursor cuts a word into pieces

A read takes as many digits as it is wide, from where the cursor stands, and moves the cursor behind
them. Reads one after the other therefore cut the leading digits of a word into pieces, none skipped and
none repeated, and each returns the number that its piece makes (`values_within`). A register, a
constant or a byte is kept in eight bits, which are enough for two digits, so nothing is cut off there
(`value_eq`). The first read that is too wide for what is left is refused. All of this rests on how a
run of digits is cut out of a word by shifting and masking, for which every difference, product and
shift on the way is checked: which runs are refused, and what the others yield, is one equation
(`cursor_cuts_word`).
-/
namespace Chip8

/-- A read that a cursor offers. -/
inductive Read where
  /-- The digit that selects the family. -/
  | family
  /-- The number of a register. -/
  | register
  /-- A small constant. -/
  | nibble
  /-- A byte. -/
  | byte
  /-- An address. -/
  | address
deriving DecidableEq, Repr

namespace Word

/-- The number that digits make, the most significant first. -/
def number (piece : List Nat) : Nat := Nat.ofDigits 0x10 piece.reverse

/-- A part of a word fits in a word. -/
theorem toNat_part (word : UInt16) (behind size : Nat) :
    (UInt16.ofNat (word.toNat / behind % size)).toNat = word.toNat / behind % size := by
  have small : word.toNat / behind % size ≤ word.toNat :=
    Nat.le_trans (Nat.mod_le _ _) (Nat.div_le_self _ _)
  rw [UInt16.toNat_ofNat', Nat.mod_eq_of_lt (Nat.lt_of_le_of_lt small word.toNat_lt)]

/-- The digits of a word make the word. -/
theorem number_digits (word : UInt16) : number (digits word) = word.toNat := by
  have bound := word.toNat_lt
  simp only [number, digits, List.reverse_cons, List.reverse_nil, List.nil_append,
    List.cons_append, Nat.ofDigits_cons, Nat.ofDigits_nil]
  omega

/-- Each digit of a word is one. -/
theorem digit_lt {word : UInt16} {digit : Nat} (member : digit ∈ digits word) : digit < 0x10 := by
  have bound := word.toNat_lt
  simp only [digits, List.mem_cons, List.not_mem_nil, or_false] at member
  omega

/-- A quotient by the digits behind a piece, reduced to its length, is the number that it makes. -/
theorem number_piece (word : UInt16) {position count : Nat} (first : 1 ≤ position)
    (fits : position + count ≤ 5) :
    number (((digits word).drop (position - 1)).take count) =
      word.toNat / 16 ^ (5 - count - position) % 16 ^ count := by
  have four : (digits word).length = 4 := rfl
  have all : ∀ digit ∈ (digits word).reverse, digit < 0x10 :=
    fun digit member => digit_lt (List.mem_reverse.1 member)
  have cut : ((digits word).reverse.drop (5 - count - position)).take count =
      (((digits word).drop (position - 1)).take count).reverse := by
    rw [List.drop_reverse, List.take_reverse, List.drop_take, List.length_take, four]
    congr 3 <;> omega
  have whole := number_digits word
  rw [number] at whole
  rw [number, ← cut, ← whole, Nat.ofDigits_div_pow_eq_ofDigits_drop _ (by decide) _ all,
    Nat.ofDigits_mod_pow_eq_ofDigits_take _ (by decide)]
  exact fun digit member => all digit (List.mem_of_mem_drop member)

end Word

namespace Read

/-- How many digits a read takes. -/
def width : Read → Nat
  | .family | .register | .nibble => 1
  | .byte => 2
  | .address => 3

/-- How many digits reads take together. -/
def span : List Read → Nat
  | [] => 0
  | read :: later => read.width + span later

/-- What a read returns, as a number. -/
def value : Read → Reader Nat
  | .family => UInt8.toNat <$> Cursor.family
  | .register => UInt8.toNat <$> Cursor.register
  | .nibble => UInt8.toNat <$> Cursor.nibble
  | .byte => UInt8.toNat <$> Cursor.byte
  | .address => UInt16.toNat <$> Cursor.address

/-- What reads return one after the other. -/
def values (reads : List Read) : Reader (List Nat) := reads.mapM value

variable {word : UInt16} {position : Nat}

/-- A read takes some digits, but not all. -/
theorem width_bounds (read : Read) : 1 ≤ read.width ∧ read.width ≤ 3 := by
  cases read <;> decide

/-- Digits that are taken make a number of so many digits. -/
theorem toNat_take_lt {count : Nat} {cursor after : Cursor} {found : UInt16}
    (taken : Cursor.take count cursor = some (found, after)) : found.toNat < 16 ^ count := by
  unfold Cursor.take at taken
  split at taken
  · obtain ⟨run, cut, same⟩ := Option.map_eq_some_iff.1 taken
    obtain ⟨rfl, -⟩ := Prod.mk.inj same
    by_cases within : Word.Within cursor.position count
    · rw [Word.digits?_of_within within, Nat.pow_eq, Nat.pow_eq] at cut
      obtain rfl := Option.some.inj cut
      rw [Word.toNat_part]
      exact Nat.mod_lt _ (Nat.pow_pos (by decide))
    · rw [Word.digits?_eq_none_iff.2 within] at cut
      cases cut
  · cases taken

/-- Eight bits have room for two digits. -/
theorem toUInt8_take {count : Nat} (short : count ≤ 2) :
    (UInt8.toNat <$> UInt16.toUInt8 <$> Cursor.take count : Reader Nat) =
      UInt16.toNat <$> Cursor.take count := by
  funext cursor
  simp only [Functor.map, StateT.map]
  cases taken : Cursor.take count cursor with
  | none => rfl
  | some pair =>
    have small : pair.1.toNat < 2 ^ 8 :=
      Nat.lt_of_lt_of_le (toNat_take_lt taken) (Nat.pow_le_pow_right (by decide) short)
    simp only [Option.bind_eq_bind, Option.bind_some, Option.pure_def, UInt16.toNat_toUInt8,
      Nat.mod_eq_of_lt small]

/-- Every read returns the digits that it takes, and loses none of them. -/
theorem value_eq (read : Read) : read.value = UInt16.toNat <$> Checked.take read.width := by
  rw [Checked.take_eq]
  cases read with
  | address => rfl
  | _ => exact toUInt8_take (by decide)

/-- A read within the word returns the number that its piece makes. -/
theorem value_within (read : Read) (first : 1 ≤ position) (fits : position + read.width ≤ 5) :
    read.value ⟨word, position⟩ =
      some (Word.number (((Word.digits word).drop (position - 1)).take read.width),
        ⟨word, position + read.width⟩) := by
  have taken := @Cursor.take_within word position read.width first read.width_bounds.1 fits
  rw [value_eq, Checked.take_eq, Word.number_piece word first fits]
  simp only [Functor.map, StateT.map, taken, Option.bind_eq_bind, Option.bind_some,
    Option.pure_def, Word.toNat_part, Nat.pow_eq]

/-- A read that passes the last digit is refused. -/
theorem value_beyond (read : Read) (passes : 5 < position + read.width) :
    read.value ⟨word, position⟩ = none := by
  have refused : Cursor.take read.width ⟨word, position⟩ = none := if_neg (Nat.not_le.2 passes)
  rw [value_eq, Checked.take_eq]
  simp only [Functor.map, StateT.map, refused, Option.bind_eq_bind, Option.bind_none]

/-- Reads that fit in what is left of a word cut it into pieces and return what these make. -/
theorem values_within (reads : List Read) (first : 1 ≤ position)
    (fits : position + span reads ≤ 5) :
    ∃ pieces : List (List Nat),
      pieces.flatten = ((Word.digits word).drop (position - 1)).take (span reads) ∧
        pieces.map List.length = reads.map width ∧
        values reads ⟨word, position⟩ =
          some (pieces.map Word.number, ⟨word, position + span reads⟩) := by
  induction reads generalizing position with
  | nil => exact ⟨[], by simp [span], rfl, rfl⟩
  | cons read later inductionHypothesis =>
    rw [span] at fits ⊢
    obtain ⟨pieces, flat, widths, rest⟩ :=
      @inductionHypothesis (position + read.width) (by omega) (by omega)
    have behind : position + read.width - 1 = position - 1 + read.width := by omega
    have found := @value_within word position read first (by omega)
    refine ⟨((Word.digits word).drop (position - 1)).take read.width :: pieces, ?_, ?_, ?_⟩
    · rw [List.flatten_cons, flat, behind, ← List.drop_drop, List.take_add]
    · have four : (Word.digits word).length = 4 := rfl
      have whole : min read.width (4 - (position - 1)) = read.width := by omega
      rw [List.map_cons, widths, List.map_cons, List.length_take, List.length_drop, four, whole]
    · rw [values] at rest
      rw [values, List.mapM_cons]
      simp only [bind, StateT.bind, found, Option.bind, rest, Cursor.pure_eq, List.map_cons,
        Nat.add_assoc]

/-- On a new cursor, reads that are together no wider than a word return the leading digits of the word
in pieces, each as wide as its read. -/
theorem values_start (word : UInt16) (reads : List Read) (fits : span reads ≤ 4) :
    ∃ pieces : List (List Nat),
      pieces.flatten = (Word.digits word).take (span reads) ∧
        pieces.map List.length = reads.map width ∧
        values reads (Cursor.start word) =
          some (pieces.map Word.number, ⟨word, 1 + span reads⟩) :=
  values_within reads (Nat.le_refl 1) (by omega)

end Read

namespace Checked

/-- What any run of digits yields, if it is not refused. -/
theorem toNat_digits (word : UInt16) (start count : Nat) :
    (digits word start count).map UInt16.toNat =
      if 4 < count ∨ start = 0 ∨ 4 - count < start - 1 ∨ start = 1 ∧ count = 0 then none
      else some (word.toNat / 16 ^ (5 - count - start) % 16 ^ count) := by
  rw [digits_eq]
  split
  · rename_i outside
    have refused : ¬Word.Within start count := by
      rintro ⟨_, _, _, _⟩
      omega
    rw [Word.digits?_eq_none_iff.2 refused, Option.map_none]
  · rename_i inside
    have within : Word.Within start count := ⟨by omega, by omega, by omega, by omega⟩
    rw [Word.digits?_of_within within, Option.map_some, Word.toNat_part, Nat.pow_eq, Nat.pow_eq]

end Checked

/-- **A cursor cuts a word into pieces.** With every difference, product, shift and cast on the way
checked, a read returns the digits that it takes and loses none of them. Reads that are together no
wider than the word cut its leading digits into pieces as wide as they are, and each returns the number
that its piece makes. The first read that goes further is refused. And wherever a run of digits begins
and however long it is, it is refused if it does not lie within the word, and otherwise yields the
quotient by the digits behind it, reduced to its length. -/
theorem cursor_cuts_word (word : UInt16) :
    (∀ read : Read, read.value = UInt16.toNat <$> Checked.take read.width) ∧
    (∀ reads : List Read, Read.span reads ≤ 4 →
      ∃ pieces : List (List Nat),
        pieces.flatten = (Word.digits word).take (Read.span reads) ∧
          pieces.map List.length = reads.map Read.width ∧
          Read.values reads (Cursor.start word) =
            some (pieces.map Word.number, ⟨word, 1 + Read.span reads⟩)) ∧
    (∀ (reads : List Read) (read : Read),
      Read.span reads ≤ 4 → 4 < Read.span reads + read.width →
        ∃ found after, Read.values reads (Cursor.start word) = some (found, after) ∧
          read.value after = none) ∧
    ∀ start count : Nat,
      (Checked.digits word start count).map UInt16.toNat =
        if 4 < count ∨ start = 0 ∨ 4 - count < start - 1 ∨ start = 1 ∧ count = 0 then none
        else some (word.toNat / 16 ^ (5 - count - start) % 16 ^ count) := by
  refine ⟨Read.value_eq, Read.values_start word, fun reads read fits passes => ?_,
    Checked.toNat_digits word⟩
  obtain ⟨pieces, -, -, found⟩ := Read.values_start word reads fits
  exact ⟨_, _, found, Read.value_beyond read (by omega)⟩

/-- A family, a register and a byte cut D12F into pieces of one digit, of one and of two, after which
nothing is left for a constant. The last three digits are a run, and no run begins with a fifth. -/
theorem cursor_cuts_word_sprite :
    (∃ pieces : List (List Nat),
      pieces.flatten = [0xD, 0x1, 0x2, 0xF] ∧ pieces.map List.length = [1, 1, 2] ∧
        Read.values [.family, .register, .byte] (Cursor.start 0xD12F) =
          some (pieces.map Word.number, ⟨0xD12F, 5⟩)) ∧
      (∃ found after,
        Read.values [.family, .register, .byte] (Cursor.start 0xD12F) = some (found, after) ∧
          Read.nibble.value after = none) ∧
      (Checked.digits 0xD12F 2 3).map UInt16.toNat = some 0x12F ∧
      (Checked.digits 0xD12F 5 1).map UInt16.toNat = none := by
  have fits : Read.span [.family, .register, .byte] ≤ 4 := by decide
  obtain ⟨-, pieces, passes, runs⟩ := cursor_cuts_word 0xD12F
  exact ⟨pieces _ fits, passes _ .nibble fits (by decide), (runs 2 3).trans (by decide),
    (runs 5 1).trans (by decide)⟩

/-- The pieces make a family, a register and a byte. -/
example : Read.values [.family, .register, .byte] (Cursor.start 0xD12F) =
    some ([0xD, 0x1, 0x2F], ⟨0xD12F, 5⟩) := by decide

end Chip8
