-- Edits of a text. A change replaces the stretch between two positions, or the whole text when it
-- names no range. Changes land one after another, each read against the text that the one before it
-- left.

import DelugeAssist.Text.Position

namespace DelugeAssist

/-- A change that an editor reports (`TextDocumentContentChangeEvent`). -/
structure Change where
  range : Option Range := none
  text : Text
deriving DecidableEq, Repr

namespace Text

/-- The offset that an edit takes for a position: the end of the text where the line is missing. -/
def editOffset (text : Text) (position : Position) : Nat :=
  (text.positionToOctet? position).getD text.octets

/-- The text after one change. A range whose end comes before its start is empty at its start. -/
def applyChange (text : Text) (change : Change) : Text :=
  match change.range with
  | none => change.text
  | some range =>
    let start := text.editOffset range.start
    text.splice start (max (text.editOffset range.stop) start) change.text

/-- The text after all the changes, in order (`apply_content_changes`). -/
def applyChanges (text : Text) (changes : List Change) : Text :=
  changes.foldl applyChange text

theorem applyChanges_append (text : Text) (first later : List Change) :
    text.applyChanges (first ++ later) = (text.applyChanges first).applyChanges later := by
  simp [applyChanges]

end Text

end DelugeAssist
