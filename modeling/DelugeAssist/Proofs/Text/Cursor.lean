-- Cursors on a line with words. A word is found from any column of its range, its two ends
-- included, so two words of one line that are not the same do not even share an end.

import DelugeAssist.Proofs.Text.Run

namespace DelugeAssist

namespace Text

variable {text line before run after : Text} {position : Position} {word : Word} {column : Nat}

/-- A run with a cursor at it is one with any other cursor at it. -/
theorem RunAt.of_cursor {cursor other : Nat} (h : RunAt line cursor before run after)
    (hstart : octets before ≤ other) (hstop : other ≤ octets (before ++ run)) :
    RunAt line other before run after :=
  { h with start_le := hstart, le_stop := hstop }

/-- The columns between the two ends of a run stand for cursors at the run. -/
theorem RunAt.of_column {cursor : Nat} (h : RunAt line cursor before run after)
    (hstart : units before ≤ column) (hstop : column ≤ units (before ++ run)) :
    RunAt line (line.columnOctet column) before run after := by
  have hfirst : columnPrefix line (units before) = before := by
    rw [h.eq_append, List.append_assoc, columnPrefix_units_append]
  have hlast : columnPrefix line (units (before ++ run)) = before ++ run := by
    rw [h.eq_append, columnPrefix_units_append]
  have hbehind := columnPrefix_mono line hstart
  have hwithin := columnPrefix_mono line hstop
  rw [hfirst] at hbehind
  rw [hlast] at hwithin
  rw [columnOctet_eq]
  exact h.of_cursor (octets_le_of_isPrefix hbehind) (octets_le_of_isPrefix hwithin)

/-- A word is a run at the cursor that no wide character precedes, under the columns of its ends. -/
theorem wordAt?_eq_some_iff :
    text.wordAt? position = some word ↔ ∃ line before run after,
      text.line? position.line = some line ∧
      RunAt line (line.columnOctet position.character) before run after ∧ before.EndsNarrow ∧
      word = ⟨run, ⟨position.line, units before⟩, ⟨position.line, units (before ++ run)⟩⟩ := by
  constructor
  · intro h
    obtain ⟨left, right, hline, hcursor, hrun, rfl⟩ := wordAt?_eq_some h
    have hnarrow : (beforeRun left).EndsNarrow := by
      by_contra hwide
      rw [wordAt?_of_wide hline hcursor hwide] at h
      cases h
    refine ⟨_, _, _, afterRun right, hline, ?_, hnarrow, rfl⟩
    rw [columnOctet_eq, hcursor]
    exact runAt_of_cut hrun
  · rintro ⟨line, before, run, after, hline, hat, hnarrow, rfl⟩
    obtain ⟨right, hright⟩ := columnPrefix_isPrefix line position.character
    rw [columnOctet_eq] at hat
    generalize hleft : columnPrefix line position.character = left at hat hright
    subst hright
    have hne := hat.ne_nil
    obtain ⟨rfl, rfl⟩ := hat.eq_of_cut
    exact wordAt?_of_narrow hline hleft hne hnarrow

theorem wordAt?_of_column (h : text.wordAt? position = some word)
    (hstart : word.range.start.character ≤ column) (hstop : column ≤ word.range.stop.character) :
    text.wordAt? ⟨position.line, column⟩ = some word := by
  obtain ⟨line, before, run, after, hline, hat, hnarrow, rfl⟩ := wordAt?_eq_some_iff.mp h
  exact wordAt?_eq_some_iff.mpr
    ⟨line, before, run, after, hline, hat.of_column hstart hstop, hnarrow, rfl⟩

/-- A word that is found at a position is found from each column of its range on that line, with
the cursor in it or at either end of it; and its columns fit 32 bits if the length of the text does.
Of two words that are found on one line either both are the same or one begins at least a column
behind the end of the other. -/
theorem every_cursor_on_a_word_finds_it (text : Text) :
    (∀ position word, text.wordAt? position = some word →
      (∀ column, word.range.start.character ≤ column → column ≤ word.range.stop.character →
        text.wordAt? ⟨position.line, column⟩ = some word) ∧
      (octets text < UInt32.size → word.range.stop.character < UInt32.size)) ∧
    (∀ position other word found, position.line = other.line →
      text.wordAt? position = some word → text.wordAt? other = some found →
      word = found ∨ word.range.stop.character + 1 ≤ found.range.start.character ∨
        found.range.stop.character + 1 ≤ word.range.start.character) := by
  constructor
  · intro position word hword
    exact ⟨fun column => wordAt?_of_column hword, (standsAt_of_wordAt? hword).narrow⟩
  · intro position other word found hline hword hfound
    rcases Nat.lt_or_ge word.range.stop.character found.range.start.character with hright | hright
    · exact .inr (.inl hright)
    rcases Nat.lt_or_ge found.range.stop.character word.range.start.character with hleft | hleft
    · exact .inr (.inr hleft)
    -- Both are found from the later one of their starts.
    have hwidth := (standsAt_of_wordAt? hword).width
    have hother := (standsAt_of_wordAt? hfound).width
    have hshared := wordAt?_of_column hword (Nat.le_max_left _ found.range.start.character)
      (Nat.max_le.mpr ⟨by omega, hright⟩)
    have hsame := wordAt?_of_column hfound (Nat.le_max_right word.range.start.character _)
      (Nat.max_le.mpr ⟨hleft, by omega⟩)
    rw [hline, hsame] at hshared
    exact .inl (Option.some.inj hshared).symm

/-- Two words with a space between them, on a line with a pair of units before and behind them. -/
theorem every_cursor_behind_a_pair_finds_its_word :
    let text : Text := "é😀 is_a2 b😀".toList
    let word : Word := ⟨"is_a2".toList, ⟨⟨0, 4⟩, ⟨0, 9⟩⟩⟩
    let next : Word := ⟨['b'], ⟨⟨0, 10⟩, ⟨0, 11⟩⟩⟩
    text.wordAt? ⟨0, 6⟩ = some word ∧ text.wordAt? ⟨0, 4⟩ = some word ∧
    text.wordAt? ⟨0, 9⟩ = some word ∧ word.range.stop.character < UInt32.size ∧
    text.wordAt? ⟨0, 11⟩ = some next ∧
    word.range.stop.character + 1 ≤ next.range.start.character := by
  intro text word next
  obtain ⟨hfind, hapart⟩ := every_cursor_on_a_word_finds_it text
  have hword : text.wordAt? ⟨0, 6⟩ = some word := by decide +kernel
  have hnext : text.wordAt? ⟨0, 11⟩ = some next := by decide +kernel
  obtain ⟨hcolumns, hnarrow⟩ := hfind ⟨0, 6⟩ word hword
  refine ⟨hword, hcolumns 4 (by decide) (by decide), hcolumns 9 (by decide) (by decide),
    hnarrow (by decide +kernel), hnext, ?_⟩
  rcases hapart ⟨0, 6⟩ ⟨0, 11⟩ word next rfl hword hnext with hsame | hright | hleft
  · cases congrArg Word.range hsame
  · exact hright
  · cases Nat.not_le_of_lt (by decide) hleft

end Text

end DelugeAssist
