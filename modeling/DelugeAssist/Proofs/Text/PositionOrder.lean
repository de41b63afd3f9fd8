-- Offsets of positions in order. Positions are ordered line by line and within a line column by
-- column, and the offsets that edits take for them keep that order, past the ends of lines and past
-- the last line too. So the end of a range needs holding back at its start only where the range
-- runs backwards, and there nothing is deleted.

import DelugeAssist.Proofs.Text.Offset

namespace DelugeAssist

namespace Position

/-- Before another position: on a line above it, or on the same line further to the left. -/
instance : LT Position where
  lt first second := first.line < second.line ∨
    first.line = second.line ∧ first.character < second.character

theorem lt_def {first second : Position} :
    first < second ↔ first.line < second.line ∨
      first.line = second.line ∧ first.character < second.character := Iff.rfl

instance (first second : Position) : Decidable (first < second) :=
  decidable_of_iff _ lt_def.symm

theorem le_of_lt {first second : Position} (h : first < second) : first ≤ second := by
  rw [lt_def] at h
  rw [le_def]
  omega

end Position

namespace Text

theorem editOffset_mono (text : Text) {first second : Position} (h : first ≤ second) :
    text.editOffset first ≤ text.editOffset second := by
  rw [editOffset_eq, editOffset_eq]
  exact octets_le_of_isPrefix (upTo_mono text h)

/-- The offsets that edits take for positions keep the order of the positions, those past the end of
a line or on a line that is not there included. Held back at its start or not, the end of a range in
order is the same, and a range that runs backwards is empty at its start: the text is cut there and
what is inserted comes between, with nothing deleted. -/
theorem later_positions_stand_for_no_earlier_offsets (text : Text) :
    (∀ first second, first ≤ second → text.editOffset first ≤ text.editOffset second) ∧
    (∀ range inserted, range.start ≤ range.stop →
      max (text.editOffset range.stop) (text.editOffset range.start) =
        text.editOffset range.stop ∧
      text.applyChange ⟨some range, inserted⟩ =
        text.splice (text.editOffset range.start) (text.editOffset range.stop) inserted) ∧
    (∀ range inserted, range.stop < range.start → ∃ before after,
      text = before ++ after ∧ octets before = text.editOffset range.start ∧
      text.applyChange ⟨some range, inserted⟩ = before ++ inserted ++ after) := by
  refine ⟨fun _ _ => text.editOffset_mono, ?_, ?_⟩
  · intro range inserted horder
    have hstop : max (text.editOffset range.stop) (text.editOffset range.start) =
        text.editOffset range.stop := Nat.max_eq_left (text.editOffset_mono horder)
    refine ⟨hstop, ?_⟩
    simp only [applyChange, hstop]
  · intro range inserted hreversed
    obtain ⟨before, middle, after, htext, hbefore, hstop, happly⟩ :=
      applyChange_of_range text inserted range
    have hstart : text.editOffset range.start = octets before := by rw [editOffset_eq, hbefore]
    rw [Nat.max_eq_right (text.editOffset_mono (Position.le_of_lt hreversed)), hstart] at hstop
    obtain rfl : middle = [] := octets_eq_zero.mp (by omega)
    rw [List.append_nil] at htext
    exact ⟨before, after, htext, hstart.symm, happly⟩

/-- Behind a return that the last line does not show, and in both directions between the end of one
line and the inside of a pair of units on the next. -/
theorem positions_behind_a_last_return_keep_their_order :
    let text : Text := "é\r\n😀\r".toList
    let forth : Range := ⟨⟨0, 7⟩, ⟨1, 1⟩⟩
    let back : Range := ⟨⟨1, 1⟩, ⟨0, 7⟩⟩
    (⟨1, 9⟩ : Position) ≤ ⟨2, 0⟩ ∧ text.editOffset ⟨1, 9⟩ = 8 ∧ text.editOffset ⟨2, 0⟩ = 9 ∧
    text.editOffset ⟨1, 9⟩ ≤ text.editOffset ⟨2, 0⟩ ∧
    forth.start ≤ forth.stop ∧ text.applyChange ⟨some forth, ['x']⟩ = text.splice 2 8 ['x'] ∧
    back.stop < back.start ∧ (∃ before after, text = before ++ after ∧ octets before = 8 ∧
      text.applyChange ⟨some back, ['x']⟩ = before ++ ['x'] ++ after) := by
  intro text forth back
  obtain ⟨hmono, hforth, hback⟩ := later_positions_stand_for_no_earlier_offsets text
  have hlater : (⟨1, 9⟩ : Position) ≤ ⟨2, 0⟩ := by decide
  have horder : forth.start ≤ forth.stop := by decide
  have hreversed : back.stop < back.start := by decide
  have hstart : text.editOffset forth.start = 2 := by decide +kernel
  have hstop : text.editOffset forth.stop = 8 := by decide +kernel
  obtain ⟨-, happly⟩ := hforth forth ['x'] horder
  obtain ⟨before, after, htext, hlength, hinsert⟩ := hback back ['x'] hreversed
  refine ⟨hlater, by decide +kernel, by decide +kernel, hmono _ _ hlater, horder, ?_, hreversed,
    before, after, htext, ?_, hinsert⟩
  · rwa [hstart, hstop] at happly
  · exact hlength.trans hstop

end Text

end DelugeAssist
