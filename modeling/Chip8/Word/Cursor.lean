import Chip8.Word

/-!
# Reading a word from left to right

A cursor stands before one digit of a word and only moves forward: each read takes the
digits that follow the previous read. Reading past the fourth digit is refused.
-/
namespace Chip8

/-- A word together with the digit that the next read starts at, counted from one. -/
structure Cursor where
  /-- The word being read. -/
  word : UInt16
  /-- The first digit not yet read. -/
  position : Nat
deriving DecidableEq, Repr

/-- A read moves the cursor, or refuses. -/
abbrev Reader := StateT Cursor Option

namespace Cursor

/-- Reading starts at the first digit. -/
def start (word : UInt16) : Cursor := ⟨word, 1⟩

/-- A read takes the next `count` digits, unless that passes the fourth digit. -/
def take (count : Nat) : Reader UInt16 := fun cursor =>
  if cursor.position + count ≤ 5 then
    (Word.digits? cursor.word cursor.position count).map
      (·, { cursor with position := cursor.position + count })
  else none

/-- One digit selects the family of an instruction. -/
def family : Reader UInt8 := UInt16.toUInt8 <$> take 1

/-- One digit names a register. -/
def register : Reader UInt8 := UInt16.toUInt8 <$> take 1

/-- One digit is a small constant. -/
def nibble : Reader UInt8 := UInt16.toUInt8 <$> take 1

/-- Two digits are a byte. -/
def byte : Reader UInt8 := UInt16.toUInt8 <$> take 2

/-- Three digits are an address. -/
def address : Reader UInt16 := take 3

/-- A reader that reads nothing leaves the cursor where it is. -/
theorem pure_eq {α : Type} (value : α) (cursor : Cursor) :
    (pure value : Reader α) cursor = some (value, cursor) := rfl

/-- A read within the word yields the quotient by the digits after it, reduced to its length,
and leaves the cursor behind it. -/
theorem take_within {word : UInt16} {position count : Nat} (first : 1 ≤ position)
    (digits : 1 ≤ count) (fits : position + count ≤ 5) :
    take count ⟨word, position⟩ =
      some (UInt16.ofNat
        (word.toNat / Nat.pow 16 (5 - count - position) % Nat.pow 16 count),
        ⟨word, position + count⟩) := by
  have within : Word.Within position count := ⟨by omega, first, by omega, by omega⟩
  simp [take, fits, Word.digits?_of_within within]

/-- A short read yields its digits as a byte. -/
theorem take_byte {word : UInt16} {position count : Nat} (first : 1 ≤ position)
    (digits : 1 ≤ count) (fits : position + count ≤ 5) :
    (UInt16.toUInt8 <$> take count : Reader UInt8) ⟨word, position⟩ =
      some (UInt8.ofNat
        (word.toNat / Nat.pow 16 (5 - count - position) % Nat.pow 16 count),
        ⟨word, position + count⟩) := by
  simp only [Functor.map, StateT.map, take_within first digits fits, bind, Option.bind, pure,
    Option.some.injEq, Prod.mk.injEq, and_true]
  apply UInt8.toNat_inj.1
  rw [UInt16.toNat_toUInt8, UInt16.toNat_ofNat', UInt8.toNat_ofNat',
    Nat.mod_mod_of_dvd _ (by decide : 2 ^ 8 ∣ 2 ^ 16)]

/-- The digit X is read after the family. -/
theorem register_second (word : UInt16) :
    register ⟨word, 2⟩ = some (Word.x word, ⟨word, 3⟩) :=
  take_byte (by decide) (by decide) (by decide)

/-- The digit Y is read after the digit X. -/
theorem register_third (word : UInt16) :
    register ⟨word, 3⟩ = some (Word.y word, ⟨word, 4⟩) :=
  take_byte (by decide) (by decide) (by decide)

/-- The digit N is read last. -/
theorem nibble_fourth (word : UInt16) :
    nibble ⟨word, 4⟩ = some (Word.nibble word, ⟨word, 5⟩) :=
  (take_byte (by decide) (by decide) (by decide)).trans (by
    simp [Word.nibble])

/-- The byte NN is read after the digit X. -/
theorem byte_third (word : UInt16) : byte ⟨word, 3⟩ = some (Word.byte word, ⟨word, 5⟩) :=
  (take_byte (by decide) (by decide) (by decide)).trans (by simp [Word.byte])

/-- The address NNN is read after the family. -/
theorem address_second (word : UInt16) :
    address ⟨word, 2⟩ = some (Word.address word, ⟨word, 5⟩) :=
  (take_within (by decide) (by decide) (by decide)).trans (by simp [Word.address])

/-- The family is read first. -/
theorem family_start (word : UInt16) :
    family (start word) = some (UInt8.ofNat (Word.family word), ⟨word, 2⟩) := by
  have bound := word.toNat_lt
  refine (take_byte (by decide) (by decide) (by decide)).trans ?_
  simp only [Word.family, Option.some.injEq, Prod.mk.injEq, and_true, Nat.pow_eq]
  congr 1
  omega

end Cursor

end Chip8
