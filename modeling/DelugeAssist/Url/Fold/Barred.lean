-- The characters that may not stand in the name of a host, nor count as what may, and those that
-- count as nothing.

import DelugeAssist.Text.Unassigned

namespace DelugeAssist

/-- Barred characters beyond ASCII that are assigned. -/
def barredRanges : Ranges :=
  [(0x80, 0xa0), (0xa8, 0xa8), (0xaf, 0xaf), (0xb4, 0xb4), (0xb8, 0xb8), (0x2d8, 0x2dd),
   (0x37a, 0x37a), (0x384, 0x385), (0x600, 0x605), (0x61c, 0x61c), (0x6dd, 0x6dd),
   (0x70f, 0x70f), (0x890, 0x891), (0x8e2, 0x8e2), (0x1680, 0x1680), (0x1fbd, 0x1fbd),
   (0x1fbf, 0x1fc1), (0x1fcd, 0x1fcf), (0x1fdd, 0x1fdf), (0x1fed, 0x1fee), (0x1ffd, 0x200a),
   (0x200e, 0x200f), (0x2017, 0x2017), (0x2024, 0x2026), (0x2028, 0x202f), (0x203e, 0x203e),
   (0x2047, 0x2049), (0x205f, 0x205f), (0x2066, 0x2069), (0x2100, 0x2101), (0x2105, 0x2106),
   (0x2488, 0x249b), (0x2a74, 0x2a74), (0x2ff0, 0x3000), (0x309b, 0x309c), (0x31ef, 0x31ef),
   (0x33c2, 0x33c2), (0x33c7, 0x33c7), (0x33d8, 0x33d8), (0xfc5e, 0xfc63), (0xfdfa, 0xfdfb),
   (0xfe12, 0xfe13), (0xfe16, 0xfe16), (0xfe19, 0xfe19), (0xfe30, 0xfe30), (0xfe47, 0xfe4c),
   (0xfe52, 0xfe52), (0xfe55, 0xfe56), (0xfe5f, 0xfe5f), (0xfe64, 0xfe65), (0xfe68, 0xfe68),
   (0xfe6a, 0xfe70), (0xfe72, 0xfe72), (0xfe74, 0xfe76), (0xfe78, 0xfe78), (0xfe7a, 0xfe7a),
   (0xfe7c, 0xfe7c), (0xfe7e, 0xfe7e), (0xff03, 0xff03), (0xff05, 0xff05), (0xff0f, 0xff0f),
   (0xff1a, 0xff1a), (0xff1c, 0xff1c), (0xff1e, 0xff20), (0xff3b, 0xff3e), (0xff5c, 0xff5c),
   (0xffe3, 0xffe3), (0xfff9, 0xfffd), (0x110bd, 0x110bd), (0x110cd, 0x110cd),
   (0x13430, 0x1343f), (0x1f100, 0x1f100), (0xe0001, 0xe007f)]

/-- Characters that count as nothing. -/
def droppedRanges : Ranges :=
  [(0xad, 0xad), (0x34f, 0x34f), (0x115f, 0x1160), (0x17b4, 0x17b5), (0x180b, 0x180f),
   (0x200b, 0x200b), (0x2060, 0x2064), (0x206a, 0x206f), (0x3164, 0x3164), (0xfe00, 0xfe0f),
   (0xfeff, 0xfeff), (0xffa0, 0xffa0), (0x1bca0, 0x1bca3), (0x1d173, 0x1d17a),
   (0xe0100, 0xe01ef)]

/-- The characters of ASCII that may not stand in a name of a web host. -/
def isForbidden (c : Char) : Bool :=
  c.toNat ≤ 0x20 || c.toNat = 0x7F ||
    ['%', '#', '/', ':', '<', '>', '?', '@', '[', '\\', ']', '^', '|'].contains c

def isBarred (c : Char) : Bool :=
  if c.toNat < 0x80 then isForbidden c else barredRanges.contains c || isUnassigned c

def isDropped (c : Char) : Bool := droppedRanges.contains c

end DelugeAssist
