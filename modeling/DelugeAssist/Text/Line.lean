-- The lines of a text. A line starts at the beginning and after every line feed, so a text that
-- ends in a line feed has an empty last line. A carriage return at the end of a line is no part of
-- what the line shows.

import DelugeAssist.Text.Measure

namespace DelugeAssist

namespace Text

/-- The pieces between the line feeds; there is always one. -/
def pieces : Text → List Text
  | [] => [[]]
  | c :: rest =>
    if c = '\n' then [] :: pieces rest
    else
      match pieces rest with
      | [] => [[c]]
      | piece :: more => (c :: piece) :: more

/-- A piece without the carriage return that ends it, if one does. -/
def stripReturn (piece : Text) : Text :=
  if piece.getLast? = some '\r' then piece.dropLast else piece

/-- What line `i` shows (`line_text`). -/
def line? (text : Text) (i : Nat) : Option Text :=
  text.pieces[i]?.map stripReturn

/-- The offsets, counted on from `offset`, that follow the line feeds. -/
def startsAfter (offset : Nat) : Text → List Nat
  | [] => []
  | c :: rest =>
    if c = '\n' then (offset + c.utf8Size) :: startsAfter (offset + c.utf8Size) rest
    else startsAfter (offset + c.utf8Size) rest

/-- The octet offsets at which the lines start (`compute_line_starts`). -/
def lineStarts (text : Text) : List Nat := 0 :: startsAfter 0 text

/-- How many lines there are. -/
def lineCount (text : Text) : Nat := text.lineStarts.length

/-- The last line that starts at or before an offset. -/
def lineAt (text : Text) (offset : Nat) : Nat :=
  (text.lineStarts.takeWhile (· ≤ offset)).length - 1

theorem pieces_ne_nil (text : Text) : text.pieces ≠ [] := by
  cases text with
  | nil => simp [pieces]
  | cons c rest =>
    unfold pieces
    split
    · simp
    · split <;> simp

end Text

end DelugeAssist
