/-!
# Instruction words

A word is sixteen bits, read as four hexadecimal digits with the most significant first.
An instruction names its operands by their place in the word: the digits X, Y and N, the
byte NN made of the last two digits and the address NNN made of the last three. The fields
are stated by division, so that laws about them are arithmetic; `digits?` reads any run of
digits by shifting and masking, and refuses a run that does not lie within the word.
-/
namespace Chip8.Word

/-- The first byte of a pair is the high half of its word. -/
def ofBytes (high low : UInt8) : UInt16 := UInt16.ofNat (high.toNat * 0x100 + low.toNat)

/-- A pair of bytes fits in a word, so nothing is lost in joining it. -/
theorem toNat_ofBytes (high low : UInt8) :
    (ofBytes high low).toNat = high.toNat * 0x100 + low.toNat := by
  have hh := high.toNat_lt
  have hl := low.toNat_lt
  simp only [ofBytes, UInt16.toNat_ofNat']
  omega

/-- The first digit selects a family of instructions. -/
def family (word : UInt16) : Nat := word.toNat / 0x1000

/-- The second digit, written X. -/
def x (word : UInt16) : UInt8 := UInt8.ofNat (word.toNat / 0x100 % 0x10)

/-- The third digit, written Y. -/
def y (word : UInt16) : UInt8 := UInt8.ofNat (word.toNat / 0x10 % 0x10)

/-- The fourth digit, written N. -/
def nibble (word : UInt16) : UInt8 := UInt8.ofNat (word.toNat % 0x10)

/-- The last two digits, written NN. -/
def byte (word : UInt16) : UInt8 := UInt8.ofNat (word.toNat % 0x100)

/-- The last three digits, written NNN. -/
def address (word : UInt16) : UInt16 := UInt16.ofNat (word.toNat % 0x1000)

/-- A word has sixteen families. -/
theorem family_lt (word : UInt16) : family word < 16 := by
  have := word.toNat_lt
  simp only [family]
  omega

/-- The digit X is a digit. -/
theorem toNat_x (word : UInt16) : (x word).toNat = word.toNat / 0x100 % 0x10 := by
  simp only [x, UInt8.toNat_ofNat']
  omega

/-- The digit Y is a digit. -/
theorem toNat_y (word : UInt16) : (y word).toNat = word.toNat / 0x10 % 0x10 := by
  simp only [y, UInt8.toNat_ofNat']
  omega

/-- The digit N is a digit. -/
theorem toNat_nibble (word : UInt16) : (nibble word).toNat = word.toNat % 0x10 := by
  simp only [nibble, UInt8.toNat_ofNat']
  omega

/-- The byte NN loses no bit. -/
theorem toNat_byte (word : UInt16) : (byte word).toNat = word.toNat % 0x100 := by
  simp only [byte, UInt8.toNat_ofNat']
  omega

/-- The address NNN loses no bit. -/
theorem toNat_address (word : UInt16) : (address word).toNat = word.toNat % 0x1000 := by
  simp only [address, UInt16.toNat_ofNat']
  omega

/-- The low `count` digits are kept by this mask; four or more digits keep the whole word. -/
def mask (count : Nat) : UInt16 :=
  if 4 ≤ count then 0xFFFF else UInt16.ofNat ((1 <<< (4 * count)) - 1)

/-- A run of digits lies within the word when it starts at a digit from one, reaches no
further than the fourth and, when it is empty, does not start at the first. -/
def Within (start count : Nat) : Prop :=
  count ≤ 4 ∧ 1 ≤ start ∧ start - 1 ≤ 4 - count ∧ ¬(start = 1 ∧ count = 0)

/-- Lying within the word is decided by its four comparisons. -/
instance (start count : Nat) : Decidable (Within start count) :=
  inferInstanceAs (Decidable (_ ∧ _ ∧ _ ∧ _))

/-- The run of `count` digits from digit `start`, counted from one; a run that does not lie
within the word is refused. -/
def digits? (word : UInt16) (start count : Nat) : Option UInt16 :=
  if Within start count then
    some ((word >>> UInt16.ofNat (4 * (5 - count - start))) &&& mask count)
  else none

/-- Only runs outside the word are refused. -/
theorem digits?_eq_none_iff {word : UInt16} {start count : Nat} :
    digits? word start count = none ↔ ¬Within start count := by
  simp [digits?]

/-- The mask of `count` digits is one less than a power of sixteen. -/
theorem toNat_mask {count : Nat} (fits : count ≤ 4) :
    (mask count).toNat = (1 <<< (4 * count)) - 1 := by
  match count, fits with
  | 0, _ | 1, _ | 2, _ | 3, _ | 4, _ => rfl

/-- A run within the word is the quotient by the digits after it, reduced to its length. -/
theorem digits?_of_within {word : UInt16} {start count : Nat} (within : Within start count) :
    digits? word start count =
      some (UInt16.ofNat
        (word.toNat / Nat.pow 16 (5 - count - start) % Nat.pow 16 count)) := by
  have bound := word.toNat_lt
  rw [Nat.pow_eq, Nat.pow_eq]
  have places : 5 - count - start < 4 := by
    obtain ⟨_, _, _, _⟩ := within
    omega
  have reduced : word.toNat / 16 ^ (5 - count - start) % 16 ^ count < 2 ^ 16 :=
    Nat.lt_of_le_of_lt (Nat.le_trans (Nat.mod_le _ _) (Nat.div_le_self _ _)) bound
  simp only [digits?, within, if_true, Option.some.injEq]
  apply UInt16.toNat_inj.1
  rw [UInt16.toNat_and, toNat_mask within.1, Nat.one_shiftLeft, Nat.and_two_pow_sub_one_eq_mod,
    UInt16.toNat_shiftRight, UInt16.toNat_ofNat', UInt16.toNat_ofNat',
    Nat.mod_eq_of_lt reduced, Nat.mod_eq_of_lt (show 4 * (5 - count - start) < 2 ^ 16 by omega),
    Nat.mod_eq_of_lt (show 4 * (5 - count - start) < 16 by omega), Nat.shiftRight_eq_div_pow,
    Nat.pow_mul, Nat.pow_mul]

end Chip8.Word
