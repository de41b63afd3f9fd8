-- Edits of one line. An edit that stays on one line and inserts no feed is an edit of the piece of
-- that line alone, with its columns read there, and leaves the pieces of the other lines as they
-- are. So edits of different lines may be made in any order.

import DelugeAssist.Proofs.Text.Concatenation
import Mathlib.Data.List.Nodup
import Mathlib.Data.List.Perm.Basic

namespace DelugeAssist

/-- An edit between two columns of one line, in either order, that inserts no feed. -/
structure LineEdit where
  line : Nat
  first : Nat
  last : Nat
  text : Text
  feedless : '\n' ∉ text
deriving DecidableEq, Repr

namespace LineEdit

def change (edit : LineEdit) : Change :=
  ⟨some ⟨⟨edit.line, edit.first⟩, ⟨edit.line, edit.last⟩⟩, edit.text⟩

/-- What the edit makes of the piece of its line. -/
def onPiece (edit : LineEdit) (piece : Text) : Text :=
  piece.applyChange ⟨some ⟨⟨0, edit.first⟩, ⟨0, edit.last⟩⟩, edit.text⟩

end LineEdit

namespace Text

/-! ## The pieces of a text -/

/-- The pieces say all there is of a text. -/
theorem eq_of_pieces_eq {text other : Text} (h : text.pieces = other.pieces) : text = other := by
  have hjoin : ∀ whole : Text, ['\n'].intercalate whole.pieces = whole := by
    intro whole
    rw [pieces_eq_splitOn, List.intercalate_splitOn]
  rw [← hjoin text, h, hjoin]

theorem length_pieces_eq_lineCount (text : Text) : text.pieces.length = text.lineCount := by
  rw [length_pieces, lineCount_eq]

/-- Below whole lines come the pieces of the rest. -/
theorem pieces_above {above : Text} (h : above.EndsLine) (rest : Text) :
    pieces (above ++ rest) = (pieces above).dropLast ++ pieces rest := by
  rcases endsLine_iff.mp h with rfl | ⟨more, rfl⟩
  · rfl
  · have hmore : pieces (more ++ ['\n']) = pieces more ++ [[]] := by
      rw [pieces_eq_splitOn, List.splitOn_append_cons_self, pieces_eq_splitOn, List.splitOn_nil]
    have hwhole : pieces (more ++ '\n' :: rest) = pieces more ++ pieces rest := by
      rw [pieces_eq_splitOn, List.splitOn_append_cons_self, ← pieces_eq_splitOn,
        ← pieces_eq_splitOn]
    rw [hmore, List.dropLast_concat, List.append_assoc, List.singleton_append, hwhole]

theorem pieces_append_below {piece below : Text} (hpiece : '\n' ∉ piece)
    (hbelow : ∀ c ∈ below.head?, c = '\n') :
    pieces (piece ++ below) = piece :: (pieces below).tail := by
  rcases below with _ | ⟨c, rest⟩
  · rw [List.append_nil, pieces_eq_splitOn, List.splitOn_eq_singleton hpiece]
    rfl
  · obtain rfl : c = '\n' := hbelow c rfl
    rw [pieces_append_feed hpiece, pieces, if_pos rfl, List.tail_cons]

namespace LineSplit

variable {text above piece below : Text} {i : Nat}

theorem pieces_eq (h : LineSplit text i above piece below) :
    text.pieces = (pieces above).dropLast ++ piece :: (pieces below).tail := by
  rw [h.eq_append, List.append_assoc, pieces_above h.endsLine,
    pieces_append_below h.feedless h.opens]

/-- Another piece without feeds may stand in the place of one. -/
theorem replace (h : LineSplit text i above piece below) {other : Text} (hother : '\n' ∉ other) :
    LineSplit (above ++ other ++ below) i above other below :=
  { h with eq_append := rfl, feedless := hother }

theorem pieces_replace (h : LineSplit text i above piece below) {f : Text → Text}
    (hf : '\n' ∉ f piece) : pieces (above ++ f piece ++ below) = text.pieces.modify i f := by
  have hlength : (pieces above).dropLast.length = i := by
    rw [List.length_dropLast, length_pieces, h.count_above, Nat.add_sub_cancel]
  have hmodify := List.modifyTailIdx_add (List.modifyHead f) 0 (pieces above).dropLast
    (piece :: (pieces below).tail)
  rw [hlength, ← h.pieces_eq] at hmodify
  exact (h.replace hf).pieces_eq.trans hmodify.symm

end LineSplit

/-! ## An edit of one line -/

/-- The piece of a line shows on its first line what the line shows. -/
theorem editOffset_piece {piece : Text} (h : '\n' ∉ piece) (column : Nat) :
    piece.editOffset ⟨0, column⟩ = octets (columnPrefix (stripReturn piece) column) := by
  have hfirst : firstLine (piece ++ []) = stripReturn piece := firstLine_append h (by simp)
  rw [List.append_nil] at hfirst
  rw [editOffset_eq, upTo_zero, hfirst]

namespace LineSplit

variable {text above piece below : Text} {edit : LineEdit}

/-- On its line an edit finds the piece of that line, as if it were all the text. -/
theorem applyChange_eq (h : LineSplit text edit.line above piece below) :
    text.applyChange edit.change = above ++ edit.onPiece piece ++ below := by
  obtain ⟨before, middle, after, hpiece, hbefore, hstop, happly⟩ :=
    applyChange_of_range piece edit.text ⟨⟨0, edit.first⟩, ⟨0, edit.last⟩⟩
  have hoffset : ∀ column, text.editOffset ⟨edit.line, column⟩ =
      octets above + piece.editOffset ⟨0, column⟩ := by
    intro column
    rw [editOffset_piece h.feedless, editOffset_eq, h.upTo_eq, octets_append]
  have hstart : piece.editOffset ⟨0, edit.first⟩ = octets before := by rw [editOffset_eq, hbefore]
  have hsplice := splice_append (above ++ before) middle (after ++ below) edit.text
  have hwhole : text = above ++ before ++ middle ++ (after ++ below) := by
    rw [h.eq_append, hpiece]
    simp only [List.append_assoc]
  rw [octets_append, ← hwhole, Nat.add_assoc] at hsplice
  calc text.applyChange edit.change
      = text.splice (octets above + octets before)
          (octets above + (octets before + octets middle)) edit.text := by
        simp only [applyChange, LineEdit.change, hoffset, Nat.add_max_add_left]
        rw [hstop, hstart]
    _ = above ++ (before ++ edit.text ++ after) ++ below := by
        rw [hsplice]
        simp only [List.append_assoc]
    _ = above ++ edit.onPiece piece ++ below := by rw [LineEdit.onPiece, happly]

end LineSplit

theorem feed_notMem_onPiece (edit : LineEdit) {piece : Text} (h : '\n' ∉ piece) :
    '\n' ∉ edit.onPiece piece := by
  obtain ⟨before, middle, after, hpiece, -, -, happly⟩ :=
    applyChange_of_range piece edit.text ⟨⟨0, edit.first⟩, ⟨0, edit.last⟩⟩
  rw [LineEdit.onPiece, happly]
  simp only [hpiece, List.mem_append, not_or] at h ⊢
  exact ⟨⟨h.1.1, edit.feedless⟩, h.2⟩

/-- An edit of a line that is there changes the piece of that line and no other. -/
theorem pieces_applyChange {text : Text} {edit : LineEdit} (h : edit.line < text.lineCount) :
    (text.applyChange edit.change).pieces = text.pieces.modify edit.line edit.onPiece := by
  obtain ⟨above, piece, below, hsplit⟩ := exists_lineSplit h
  rw [hsplit.applyChange_eq, hsplit.pieces_replace (feed_notMem_onPiece edit hsplit.feedless)]

/-! ## Edits of several lines -/

theorem pieces_applyChanges {text : Text} {edits : List LineEdit}
    (h : ∀ edit ∈ edits, edit.line < text.lineCount) :
    (text.applyChanges (edits.map LineEdit.change)).pieces =
      edits.foldl (fun pieces edit => pieces.modify edit.line edit.onPiece) text.pieces := by
  induction edits generalizing text with
  | nil => rfl
  | cons edit later ih =>
    have hstep := pieces_applyChange (h edit (by simp))
    have hcount : (text.applyChange edit.change).lineCount = text.lineCount := by
      rw [← length_pieces_eq_lineCount, hstep, List.length_modify, length_pieces_eq_lineCount]
    have hrun := @ih (text.applyChange edit.change) fun other hother => by
      rw [hcount]
      exact h other (by simp [hother])
    rw [hstep] at hrun
    exact hrun

/-- Edits of lines that are there, no two of the same line, come to the same text in any order. -/
theorem applyChanges_perm {text : Text} {edits others : List LineEdit} (hperm : edits.Perm others)
    (hlines : ∀ edit ∈ edits, edit.line < text.lineCount)
    (hapart : (edits.map LineEdit.line).Nodup) :
    text.applyChanges (edits.map LineEdit.change) =
      text.applyChanges (others.map LineEdit.change) := by
  apply eq_of_pieces_eq
  rw [pieces_applyChanges hlines, pieces_applyChanges fun edit hedit =>
    hlines edit (hperm.mem_iff.mpr hedit)]
  refine hperm.foldl_eq' ?_ _
  intro first hfirst second hsecond pieces
  by_cases hline : first.line = second.line
  · rw [List.inj_on_of_nodup_map hapart hfirst hsecond hline]
  · exact List.modify_modify_ne _ _ _ hline

/-- Two edits that each stay on a line of their own and insert no feed come to the same text in
either order, whatever their columns are and in whichever order they are given; and so does any
number of them in any order. -/
theorem edits_of_different_lines_commute (text : Text) :
    (∀ first second : LineEdit, first.line < text.lineCount → second.line < text.lineCount →
      first.line ≠ second.line →
      text.applyChanges [first.change, second.change] =
        text.applyChanges [second.change, first.change]) ∧
    (∀ edits others : List LineEdit, edits.Perm others →
      (∀ edit ∈ edits, edit.line < text.lineCount) → (edits.map LineEdit.line).Nodup →
      text.applyChanges (edits.map LineEdit.change) =
        text.applyChanges (others.map LineEdit.change)) := by
  refine ⟨?_, fun _ _ => applyChanges_perm⟩
  intro first second hfirst hsecond hline
  exact applyChanges_perm (.swap second first []) (by simp [hfirst, hsecond]) (by simp [hline])

/-- A range that runs backwards from past the end of its line to the inside of a pair, an insertion
of a return at the end of the line below, and one into a last line that is empty. -/
theorem edits_below_a_pair_commute :
    let text : Text := ['a', '😀', 'b', '\r', '\n', 'é', 'c', '\n']
    let upper : LineEdit := ⟨0, 9, 2, ['x', '😀'], by decide⟩
    let lower : LineEdit := ⟨1, 1, 7, ['y', '\r'], by decide⟩
    let last : LineEdit := ⟨2, 3, 0, ['é'], by decide⟩
    upper.line < text.lineCount ∧ lower.line < text.lineCount ∧ upper.line ≠ lower.line ∧
    text.applyChanges [upper.change, lower.change] =
      ['a', '😀', 'b', 'x', '😀', '\r', '\n', 'é', 'y', '\r', '\n'] ∧
    text.applyChanges [lower.change, upper.change] =
      ['a', '😀', 'b', 'x', '😀', '\r', '\n', 'é', 'y', '\r', '\n'] ∧
    text.applyChanges ([upper, lower, last].map LineEdit.change) =
      text.applyChanges ([last, upper, lower].map LineEdit.change) := by
  intro text upper lower last
  obtain ⟨hpair, hany⟩ := edits_of_different_lines_commute text
  have hupper : upper.line < text.lineCount := by decide
  have hlower : lower.line < text.lineCount := by decide
  have hline : upper.line ≠ lower.line := by decide
  have hedited : text.applyChanges [upper.change, lower.change] =
      ['a', '😀', 'b', 'x', '😀', '\r', '\n', 'é', 'y', '\r', '\n'] := by decide
  refine ⟨hupper, hlower, hline, hedited, ?_, ?_⟩
  · rw [← hpair upper lower hupper hlower hline, hedited]
  · have hperm : [upper, lower, last].Perm [last, upper, lower] := by decide
    exact hany _ _ hperm (by decide) (by decide)

end Text

end DelugeAssist
