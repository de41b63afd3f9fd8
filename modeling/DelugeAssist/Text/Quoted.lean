-- A text as a message quotes it: between double quotes, with what would not show on the page
-- spelled out.

import DelugeAssist.Text.Measure
import DelugeAssist.Text.Unprinted

namespace DelugeAssist

namespace Text

/-- A number in lower-case hexadecimal digits. -/
def hexDigits (n : Nat) : Text := Nat.toDigits 16 n

/-- A character as it stands in a quoted text. -/
def quotedChar (c : Char) : Text :=
  if c = '"' then ['\\', '"']
  else if c = '\\' then ['\\', '\\']
  else if c = '\n' then ['\\', 'n']
  else if c = '\r' then ['\\', 'r']
  else if c = '\t' then ['\\', 't']
  else if c.toNat = 0 then ['\\', '0']
  else if c.toNat < 0x20 || c.toNat = 0x7F || isUnprinted c then
    ['\\', 'u', '\x7b'] ++ hexDigits c.toNat ++ ['\x7d']
  else [c]

/-- A text between double quotes. -/
def quoted (text : Text) : Text := ['"'] ++ text.flatMap quotedChar ++ ['"']

end Text

end DelugeAssist
