-- Percent coding: octets that may not stand for themselves are written as a percent sign and two
-- hexadecimal digits. Each part of an address has its own set of characters to encode; characters
-- beyond ASCII are always encoded.

import DelugeAssist.Json.Reader
import DelugeAssist.Text.Utf8

namespace DelugeAssist

namespace Percent

def isControl (c : Char) : Bool := c.toNat < 0x20 || c.toNat = 0x7F

def inFragmentSet (c : Char) : Bool := isControl c || [' ', '"', '<', '>', '`'].contains c

def inPathSet (c : Char) : Bool := inFragmentSet c || ['#', '?', '\x7b', '\x7d'].contains c

def inUserSet (c : Char) : Bool :=
  inPathSet c || ['/', ':', ';', '=', '@', '[', '\\', ']', '^', '|'].contains c

def inQuerySet (c : Char) : Bool := isControl c || [' ', '"', '#', '<', '>'].contains c

def inSpecialQuerySet (c : Char) : Bool := inQuerySet c || c = '\x27'

/-- A hexadecimal digit, letters in upper case. -/
def hexChar (n : Nat) : Char :=
  if n < 10 then Char.ofNat ('0'.toNat + n) else Char.ofNat ('A'.toNat + (n - 10))

def encodeOctet (octet : UInt8) : Text :=
  ['%', hexChar (octet.toNat / 16), hexChar (octet.toNat % 16)]

/-- A text with the characters of a set encoded. -/
def encode (inSet : Char → Bool) (text : Text) : Text :=
  text.flatMap fun c =>
    if inSet c || 0x80 ≤ c.toNat then (Utf8.encodeChar c).flatMap encodeOctet else [c]

/-- The octets that a text stands for. A percent sign without two digits stands for itself. -/
def decode : Text → List UInt8
  | '%' :: a :: b :: rest =>
    match Json.hexDigit? a, Json.hexDigit? b with
    | some a, some b => (a * 16 + b).toUInt8 :: decode rest
    | _, _ => '%'.toNat.toUInt8 :: decode (a :: b :: rest)
  | c :: rest => Utf8.encodeChar c ++ decode rest
  | [] => []

end Percent

end DelugeAssist
