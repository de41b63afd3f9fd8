-- Octets read as UTF-8. A file is a text only if every octet of it belongs to a character; a path
-- is shown even if not, with a mark in place of what does not belong.

import DelugeAssist.Text.Measure

namespace DelugeAssist

namespace Utf8

/-- The first octet of a character of several octets: how many octets follow, its share of the
character, and the least and greatest octet that may come next. The bounds keep out spellings that
are too long, surrogates, and what lies above the last plane. -/
def lead? (octet : UInt8) : Option (Nat × Nat × UInt8 × UInt8) :=
  if 0xC2 ≤ octet && octet ≤ 0xDF then some (1, octet.toNat - 0xC0, 0x80, 0xBF)
  else if octet = 0xE0 then some (2, 0, 0xA0, 0xBF)
  else if octet = 0xED then some (2, 0xD, 0x80, 0x9F)
  else if 0xE1 ≤ octet && octet ≤ 0xEF then some (2, octet.toNat - 0xE0, 0x80, 0xBF)
  else if octet = 0xF0 then some (3, 0, 0x90, 0xBF)
  else if 0xF1 ≤ octet && octet ≤ 0xF3 then some (3, octet.toNat - 0xF0, 0x80, 0xBF)
  else if octet = 0xF4 then some (3, 4, 0x80, 0x8F)
  else none

/-- Where a reading stands: between characters, or in one with `missing + 1` octets to come. -/
inductive State where
  | between
  | inside (missing : Nat) (share : Nat) (least greatest : UInt8)

/-- The characters of the octets, in order, with `none` for each octet or beginning of a character
that does not belong. -/
def pieces : State → List UInt8 → List (Option Char)
  | .between, [] => []
  | .inside .., [] => [none]
  | .between, octet :: rest =>
    if octet < 0x80 then some (Char.ofNat octet.toNat) :: pieces .between rest
    else
      match lead? octet with
      | some (more, share, least, greatest) => pieces (.inside (more - 1) share least greatest) rest
      | none => none :: pieces .between rest
  | .inside missing share least greatest, octet :: rest =>
    if least ≤ octet && octet ≤ greatest then
      let share := share * 64 + (octet.toNat - 0x80)
      match missing with
      | 0 => some (Char.ofNat share) :: pieces .between rest
      | missing + 1 => pieces (.inside missing share 0x80 0xBF) rest
    else if octet < 0x80 then none :: some (Char.ofNat octet.toNat) :: pieces .between rest
    else
      match lead? octet with
      | some (more, share, least, greatest) =>
        none :: pieces (.inside (more - 1) share least greatest) rest
      | none => none :: none :: pieces .between rest

/-- The text of octets that are UTF-8 throughout. -/
def decode? (octets : List UInt8) : Option Text := (pieces .between octets).mapM id

/-- The text of octets, with U+FFFD for what does not belong. -/
def decodeLossy (octets : List UInt8) : Text :=
  (pieces .between octets).map fun piece => piece.getD '\uFFFD'

/-- The octets of a character. -/
def encodeChar (c : Char) : List UInt8 :=
  let n := c.toNat
  if n < 0x80 then [n.toUInt8]
  else if n < 0x800 then [(0xC0 + n / 0x40).toUInt8, (0x80 + n % 0x40).toUInt8]
  else if n < 0x10000 then
    [(0xE0 + n / 0x1000).toUInt8, (0x80 + n / 0x40 % 0x40).toUInt8, (0x80 + n % 0x40).toUInt8]
  else
    [(0xF0 + n / 0x40000).toUInt8, (0x80 + n / 0x1000 % 0x40).toUInt8,
      (0x80 + n / 0x40 % 0x40).toUInt8, (0x80 + n % 0x40).toUInt8]

/-- The octets of a text. -/
def encode (text : Text) : List UInt8 := text.flatMap encodeChar

end Utf8

end DelugeAssist
