import ShapeMapper.Text.Basic

/-!
# Double-quoted texts

The JSON string literal of a text, in ASCII throughout: a character that is neither
printable ASCII nor one of the five short escapes is written by its UTF-16 units.
-/

namespace ShapeMapper.Text.Quoted

/-- The four lower-case hexadecimal digits of a number below 0x10000. -/
def hexDigits (n : Nat) : Text :=
  [n / 0x1000, n / 0x100, n / 0x10, n].map fun d => Nat.digitChar (d % 0x10)

/-- The escape of one UTF-16 unit. -/
def unit (n : Nat) : Text :=
  '\\' :: 'u' :: hexDigits n

/-- A character as it is written between the quotes. -/
def escape (c : Char) : Text :=
  let n := c.val.toNat
  if c = '"' then ['\\', '"']
  else if c = '\\' then ['\\', '\\']
  else if c = '\n' then ['\\', 'n']
  else if c = '\r' then ['\\', 'r']
  else if c = '\t' then ['\\', 't']
  else if c = '\x08' then ['\\', 'b']
  else if c = '\x0c' then ['\\', 'f']
  else if 0x20 ≤ n ∧ n < 0x7F then [c]
  else if n < 0x10000 then unit n
  else unit (0xD800 + (n - 0x10000) / 0x400) ++ unit (0xDC00 + (n - 0x10000) % 0x400)

/-- The quoted form of a text. -/
def encode (t : Text) : Text :=
  '"' :: t.flatMap escape ++ ['"']

end ShapeMapper.Text.Quoted
