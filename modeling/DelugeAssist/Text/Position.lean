-- Positions as an editor gives them: a line and a column in UTF-16 units. A position resolves to an
-- octet offset of the text and an offset resolves back; a column past the end of its line stands
-- for the end of the line.

import DelugeAssist.Text.Line

namespace DelugeAssist

/-- A place in a text: a line, and a column in UTF-16 units. -/
structure Position where
  line : Nat
  character : Nat
deriving DecidableEq, Repr

/-- The stretch of text from one position to another. -/
structure Range where
  start : Position
  stop : Position
deriving DecidableEq, Repr

namespace Text

/-- The octet offset of a position (`position_to_byte`); none for a line that the text does not
have. -/
def positionToOctet? (text : Text) (position : Position) : Option Nat := do
  let start ← text.lineStarts[position.line]?
  let line ← text.line? position.line
  some (start + line.columnOctet position.character)

/-- The position of an octet offset (`byte_to_position`); none inside a character or past the end.
An offset within a line break stands for the end of its line. -/
def octetToPosition? (text : Text) (offset : Nat) : Option Position := do
  if text.octets < offset then none
  else
    let number := text.lineAt offset
    let start ← text.lineStarts[number]?
    let line ← text.line? number
    let column ← line.octetToColumn? (min (offset - start) line.octets)
    some ⟨number, column⟩

/-- The line of a position, from its beginning up to the position (`line_prefix`). -/
def lineBefore? (text : Text) (position : Position) : Option Text := do
  let line ← text.line? position.line
  some (line.takeOctets (line.columnOctet position.character))

end Text

end DelugeAssist
