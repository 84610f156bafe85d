import Chip8.Text.Printable

/-!
# Quoted text

A text is shown between double quotes on one line. The quote and the backslash are escaped
with a backslash, four control characters have a letter of their own, and every other
character without a visible form of its own is written by its code point in lower-case
hexadecimal. All other characters, the single quote among them, stand for themselves.
-/
namespace Chip8.Quoted

/-- The digits of a code point, lower-case and without leading zeros. -/
def codePoint (value : Nat) : List Char := Nat.toDigits 16 value

/-- The form of one character between the quotes. -/
def escape (c : Char) : List Char :=
  if c = '"' then ['\\', '"']
  else if c = '\\' then ['\\', '\\']
  else if c = '\n' then ['\\', 'n']
  else if c = '\r' then ['\\', 'r']
  else if c = '\t' then ['\\', 't']
  else if c.toNat = 0 then ['\\', '0']
  else if Printable.holds c then [c]
  else ['\\', 'u', '\x7b'] ++ codePoint c.toNat ++ ['\x7d']

/-- A text between quotes, each character in its form. -/
def encode (text : String) : String :=
  String.ofList (['"'] ++ text.toList.flatMap escape ++ ['"'])

end Chip8.Quoted
