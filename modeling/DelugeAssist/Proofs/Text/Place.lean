-- Where an offset stands. An offset of what a line shows lies on that line, in the column that the
-- units before it count. A position that resolves to an offset and back to itself is met exactly by
-- the text before it.

import DelugeAssist.Proofs.Text.Concatenation

namespace DelugeAssist

namespace Text

/-! ## The line of an offset -/

theorem le_octets_of_mem_startsAfter {offset start : Nat} {text : Text}
    (h : start ∈ startsAfter offset text) : offset < start ∧ start ≤ offset + octets text := by
  induction text generalizing offset with
  | nil => simp [startsAfter] at h
  | cons c rest ih =>
    have hc := c.utf8Size_pos
    rw [octets_cons]
    unfold startsAfter at h
    split at h
    · rcases List.mem_cons.mp h with rfl | hrest
      · omega
      · have := ih hrest
        omega
    · have := ih h
      omega

theorem le_octets_of_mem_lineStarts {start : Nat} {text : Text} (h : start ∈ lineStarts text) :
    start ≤ octets text := by
  rcases List.mem_cons.mp h with rfl | hlater
  · exact Nat.zero_le _
  · have := (le_octets_of_mem_startsAfter hlater).2
    omega

namespace LineSplit

variable {text above piece below : Text} {i : Nat}

/-- The lines start at or before where line `i` does, and then behind its piece. -/
theorem lineStarts_eq (h : LineSplit text i above piece below) :
    lineStarts text = lineStarts above ++ startsAfter (octets above + octets piece) below := by
  have hpiece : startsAfter (octets above) piece = [] := by
    rw [← List.length_eq_zero_iff, length_startsAfter, h.count_piece]
  rw [h.eq_append, lineStarts, startsAfter_append, startsAfter_append, Nat.zero_add, Nat.zero_add,
    hpiece, List.append_nil, octets_append]
  rfl

/-- The offsets of the piece of a line lie on that line. -/
theorem lineAt_eq (h : LineSplit text i above piece below) {offset : Nat}
    (hstart : octets above ≤ offset) (hstop : offset ≤ octets above + octets piece) :
    text.lineAt offset = i := by
  have hbefore : ∀ start ∈ lineStarts above, decide (start ≤ offset) = true := by
    intro start hmem
    have := le_octets_of_mem_lineStarts hmem
    exact decide_eq_true (by omega)
  have hbehind : (startsAfter (octets above + octets piece) below).takeWhile (· ≤ offset) = [] := by
    rw [List.takeWhile_eq_nil_iff]
    intro hne
    have := (le_octets_of_mem_startsAfter (List.getElem_mem hne)).1
    simp only [List.get_eq_getElem, decide_eq_true_eq]
    omega
  have hcount : (lineStarts above).length = i + 1 := by
    rw [← h.count_above]
    exact lineCount_eq above
  rw [lineAt, h.lineStarts_eq, List.takeWhile_append_of_pos hbefore, hbehind, List.append_nil,
    hcount, Nat.add_sub_cancel]

/-- An offset of the piece of a line stands on that line, no further than the line shows. -/
theorem octetToPosition?_of_le (h : LineSplit text i above piece below) {offset : Nat}
    (hstart : octets above ≤ offset) (hstop : offset ≤ octets above + octets piece) :
    text.octetToPosition? offset =
      ((stripReturn piece).octetToColumn?
        (min (offset - octets above) (octets (stripReturn piece)))).map (⟨i, ·⟩) := by
  have hlength : octets text = octets above + octets piece + octets below := by
    rw [h.eq_append, octets_append, octets_append]
  unfold octetToPosition?
  rw [if_neg (by omega), h.lineAt_eq hstart hstop]
  simp only [h.start_eq, h.line?_eq, Option.bind_eq_bind, Option.bind_some]
  rcases octetToColumn? _ _ with _ | column
  · rfl
  · rfl

/-- An offset of what a line shows stands in the column that the units before it count. -/
theorem octetToPosition?_eq (h : LineSplit text i above piece below) {before : Text}
    (hbefore : before <+: stripReturn piece) :
    text.octetToPosition? (octets above + octets before) = some ⟨i, units before⟩ := by
  have hshown := octets_le_of_isPrefix hbefore
  have hpiece := octets_le_of_isPrefix (stripReturn_isPrefix piece)
  rw [h.octetToPosition?_of_le (by omega) (by omega), Nat.add_sub_cancel_left,
    Nat.min_eq_left hshown]
  obtain ⟨after, hafter⟩ := hbefore
  rw [← hafter, octetToColumn?_octets_append, Option.map_some]

end LineSplit

/-! ## Positions that come back to themselves -/

/-- What a position comes back as when it is resolved to an offset and that is read back. -/
def normal? (text : Text) (position : Position) : Option Position :=
  (text.positionToOctet? position).bind text.octetToPosition?

/-- On the line of a piece a position comes back in the column that the units before it count. -/
theorem LineSplit.normal?_eq {text above piece below : Text} {i : Nat}
    (h : LineSplit text i above piece below) (column : Nat) :
    text.normal? ⟨i, column⟩ = some ⟨i, units (columnPrefix (stripReturn piece) column)⟩ := by
  rw [normal?, positionToOctet?_of_line h.line?_eq h.start_eq, Option.bind_some]
  exact h.octetToPosition?_eq (columnPrefix_isPrefix _ column)

/-- The position resolves to an offset, and that offset back to the position. -/
def Settled (text : Text) (position : Position) : Prop :=
  (text.positionToOctet? position).bind text.octetToPosition? = some position

instance (text : Text) (position : Position) : Decidable (text.Settled position) :=
  inferInstanceAs (Decidable (_ = _))

/-- A settled position stands on a line that is there, and its column counts the units of that line
before it. -/
theorem exists_of_settled {text : Text} {position : Position} (h : text.Settled position) :
    ∃ above piece below, LineSplit text position.line above piece below ∧
      units (columnPrefix (stripReturn piece) position.character) = position.character := by
  rcases Nat.lt_or_ge position.line text.lineCount with hline | hline
  · obtain ⟨above, piece, below, hsplit⟩ := exists_lineSplit hline
    have hback := (hsplit.normal?_eq position.character).symm.trans h
    exact ⟨above, piece, below, hsplit, congrArg Position.character (Option.some.inj hback)⟩
  · rw [Settled, positionToOctet?_eq, line?_eq_none_iff.mpr hline] at h
    cases h

end Text

end DelugeAssist
