-- The word under a cursor: the run of letters, digits and underscores that the cursor stands in or
-- right after. The start of a run is taken to be one octet after the start of the character before
-- it, so a run that follows a character of several octets has no start, and there is no word.

import DelugeAssist.Text.Position

namespace DelugeAssist

/-- The characters of a word (`is_word_char`): ASCII letters, digits and the underscore. -/
def isWordChar (c : Char) : Bool := c.isAlphanum || c == '_'

/-- A word and where it stands. -/
structure Word where
  text : Text
  range : Range
deriving DecidableEq, Repr

namespace Text

/-- The last character that is not of a word, with what stands before it. -/
def lastBreak? (left : Text) : Option (Text × Char) :=
  match left.reverse.dropWhile isWordChar with
  | [] => none
  | c :: rest => some (rest.reverse, c)

/-- Where a word that reaches to the end of `left` starts: at the beginning, or one octet after
the start of the last character that is not of a word. -/
def wordStart (left : Text) : Nat :=
  match left.lastBreak? with
  | none => 0
  | some (earlier, _) => earlier.octets + 1

/-- Where a word that starts or goes on at `right` ends, counted from there. -/
def wordStop (right : Text) : Nat := Text.octets (right.takeWhile isWordChar)

/-- The word at a position (`word_at`). -/
def wordAt? (text : Text) (position : Position) : Option Word := do
  let line ← text.line? position.line
  let cursor := line.columnOctet position.character
  let start := (line.takeOctets cursor).wordStart
  let stop := cursor + (line.dropOctets cursor).wordStop
  if start = stop then none
  else
    let first ← line.octetToColumn? start
    let last ← line.octetToColumn? stop
    some ⟨line.slice start stop, ⟨⟨position.line, first⟩, ⟨position.line, last⟩⟩⟩

end Text

end DelugeAssist
