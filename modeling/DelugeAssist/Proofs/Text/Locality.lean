-- What an edit leaves as it was. The lines above the start of its range stay where they are, and
-- the lines below its end all move by as many lines as the inserted text has feeds more than the
-- stretch that it replaces.

import DelugeAssist.Proofs.Text.Concatenation

namespace DelugeAssist

namespace Text

theorem applyChanges_singleton (text : Text) (change : Change) :
    text.applyChanges [change] = text.applyChange change := rfl

/-- A feed ends each line above the place where two texts are joined, so what comes behind the place
does not show in those lines. -/
theorem line?_above_joint {before : Text} {i : Nat} (h : i < before.count '\n')
    (after after' : Text) : line? (before ++ after) i = line? (before ++ after') i := by
  rw [line?_append_of_lt h, line?_append_of_lt h]

/-- Below the line in which two texts are joined stand the lines of the second, whatever the first
one is. -/
theorem line?_below_joint (before before' after : Text) {j : Nat} (h : 0 < j) :
    line? (before ++ after) (before.count '\n' + j) =
      line? (before' ++ after) (before'.count '\n' + j) := by
  rw [line?_append_add before after h, line?_append_add before' after h]

/-- An edit from a line that is there leaves the lines above its start as they are. Where its end
stands on a line that is there too, the number of lines falls by those that the range spans and
grows by the feeds inserted, and the lines below the end keep what they show. The columns may be
past the ends of their lines or inside a pair of units. -/
theorem an_edit_touches_only_its_own_lines (text inserted : Text) (range : Range)
    (horder : range.start ≤ range.stop) (hstart : range.start.line < text.lineCount) :
    let edited := text.applyChanges [⟨some range, inserted⟩]
    (∀ i < range.start.line, edited.line? i = text.line? i) ∧
    (range.stop.line < text.lineCount →
      edited.lineCount =
        text.lineCount - (range.stop.line - range.start.line) + inserted.count '\n' ∧
      ∀ j, 1 ≤ j →
        edited.line? (range.start.line + inserted.count '\n' + j) =
          text.line? (range.stop.line + j)) := by
  obtain ⟨before, middle, after, htext, hbefore, hmiddle, happly⟩ :=
    applyChange_of_le text inserted horder
  have habove : before.count '\n' = range.start.line := by rw [← hbefore, count_upTo hstart]
  simp only [applyChanges_singleton, happly]
  constructor
  · intro i hi
    rw [htext, List.append_assoc, List.append_assoc]
    exact line?_above_joint (by omega) _ _
  · intro hstop
    have hthrough : (before ++ middle).count '\n' = range.stop.line := by
      rw [← hmiddle, count_upTo hstop]
    have hfeeds : (before ++ inserted).count '\n' = range.start.line + inserted.count '\n' := by
      rw [List.count_append, habove]
    constructor
    · rw [List.count_append, habove] at hthrough
      simp only [htext, lineCount_eq, List.count_append, habove]
      omega
    · intro j hj
      have hmoved := line?_below_joint (before ++ inserted) (before ++ middle) after hj
      rwa [hfeeds, hthrough, ← htext] at hmoved

/-- A line break with a carriage return is replaced by two feeds, from a column past the end of its
line to the inside of a pair of units, with an empty line below. -/
theorem an_edit_across_a_break_spares_other_lines :
    let text : Text := ['a', '\r', '\n', 'b', '\r', '\n', '😀', 'c', '\n', '\r', '\n', 'd']
    let range : Range := ⟨⟨1, 9⟩, ⟨2, 1⟩⟩
    let edited := text.applyChanges [⟨some range, ['\n', 'é', '\n']⟩]
    range.start ≤ range.stop ∧ range.start.line < text.lineCount ∧
    edited.line? 0 = some ['a'] ∧ edited.lineCount = 6 ∧
    edited.line? 4 = some [] ∧ edited.line? 5 = some ['d'] := by
  intro text range edited
  have horder : range.start ≤ range.stop := by decide
  have hstart : range.start.line < text.lineCount := by decide
  obtain ⟨habove, hbelow⟩ :=
    an_edit_touches_only_its_own_lines text ['\n', 'é', '\n'] range horder hstart
  obtain ⟨hcount, hlines⟩ := hbelow (by decide)
  refine ⟨horder, hstart, ?_, ?_, ?_, ?_⟩
  · exact habove 0 (by decide)
  · exact hcount
  · exact hlines 1 (by decide)
  · exact hlines 2 (by decide)

end Text

end DelugeAssist
