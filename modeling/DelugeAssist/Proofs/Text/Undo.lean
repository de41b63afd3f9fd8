-- Edits undone. The two ends of what an edit inserted have positions in the edited text, as long as
-- each carriage return has its feed, and the edit between these positions that puts back what was
-- deleted gives the text from before.

import DelugeAssist.Proofs.Text.Normalisation
import DelugeAssist.Proofs.Text.WholeBreaks

namespace DelugeAssist

namespace Text

/-- A text with paired returns ends at a place that some position stands for, whatever follows. -/
theorem reaches_of_pairedReturns {before : Text} (h : PairedReturns before) (after : Text) :
    (before ++ after).Reaches (octets before) :=
  reaches_iff.mpr fun hcut => h.getLast?_ne hcut.1

/-- An edit between two positions that stand for the ends of a stretch replaces that stretch. -/
theorem applyChange_of_offsets {before middle after : Text} {first last : Position}
    (hfirst : (before ++ middle ++ after).positionToOctet? first = some (octets before))
    (hlast : (before ++ middle ++ after).positionToOctet? last =
      some (octets before + octets middle)) (inserted : Text) :
    (before ++ middle ++ after).applyChange ⟨some ⟨first, last⟩, inserted⟩ =
      before ++ inserted ++ after := by
  simp only [applyChange, editOffset, hfirst, hlast, Option.getD_some]
  rw [Nat.max_eq_left (Nat.le_add_right _ _), splice_append]

/-- In a text where each return has its feed, an edit that inserts such a text is undone by one more
edit: both ends of what it inserted have positions in the edited text, whose numbers fit 32 bits if
the length of that text does, and to put there what the first edit deleted gives the text from
before. The range of the first edit may point anywhere. -/
theorem an_edit_is_undone_at_the_ends_of_what_it_inserted (text inserted : Text) (range : Range)
    (htext : PairedReturns text) (hinserted : PairedReturns inserted) :
    let start := text.editOffset range.start
    let stop := max (text.editOffset range.stop) start
    let edited := text.applyChanges [⟨some range, inserted⟩]
    start ≤ stop ∧ ∃ first last,
      edited.octetToPosition? start = some first ∧
      edited.octetToPosition? (start + octets inserted) = some last ∧
      edited.applyChanges [⟨some ⟨first, last⟩, text.slice start stop⟩] = text ∧
      (octets edited < UInt32.size → first.line < UInt32.size ∧ first.character < UInt32.size ∧
        last.line < UInt32.size ∧ last.character < UInt32.size) := by
  intro start stop edited
  obtain ⟨before, middle, after, hsplit, hbefore, hstop, happly⟩ :=
    applyChange_of_range text inserted range
  have hstart : start = octets before := by
    rw [← hbefore]
    exact editOffset_eq text range.start
  have hslice : text.slice start stop = middle := by
    have hcut := slice_append before middle after
    rwa [← hsplit, ← hstop, ← hstart] at hcut
  have hedited : edited = before ++ inserted ++ after := happly
  have hleft : PairedReturns before := hbefore ▸ pairedReturns_upTo htext range.start
  have hthrough : PairedReturns (before ++ inserted) := pairedReturns_append hleft hinserted
  have hfirst := reaches_of_pairedReturns hleft (inserted ++ after)
  have hlast := reaches_of_pairedReturns hthrough after
  rw [← List.append_assoc] at hfirst
  rw [octets_append] at hlast
  obtain ⟨first, hfirst, hstand, hsmall⟩ := hfirst.exists_position
  obtain ⟨last, hlast, hstand', hsmall'⟩ := hlast.exists_position
  refine ⟨Nat.le_max_right _ _, first, last, ?_, ?_, ?_, ?_⟩
  · rwa [hstart, hedited]
  · rwa [hstart, hedited]
  · rw [hslice, hedited, hsplit]
    exact applyChange_of_offsets hstand hstand' middle
  · intro hsize
    rw [hedited] at hsize
    refine ⟨?_, ?_, ?_, ?_⟩ <;> omega

/-- From past the end of a line to the inside of a pair of units on the next, with a break inserted
for the one that is deleted. -/
theorem an_edit_over_a_break_is_undone :
    let text : Text := ['a', '\r', '\n', '😀', 'b']
    let inserted : Text := ['é', '\r', '\n', 'c']
    let edited : Text := ['a', 'é', '\r', '\n', 'c', 'b']
    PairedReturns text ∧ PairedReturns inserted ∧
    text.applyChanges [⟨some ⟨⟨0, 9⟩, ⟨1, 1⟩⟩, inserted⟩] = edited ∧
    edited.octetToPosition? 1 = some ⟨0, 1⟩ ∧ edited.octetToPosition? 6 = some ⟨1, 1⟩ ∧
    edited.applyChanges [⟨some ⟨⟨0, 1⟩, ⟨1, 1⟩⟩, ['\r', '\n', '😀']⟩] = text := by
  intro text inserted edited
  have htext : PairedReturns text := by decide
  have hinserted : PairedReturns inserted := by decide
  have hedited : text.applyChanges [⟨some ⟨⟨0, 9⟩, ⟨1, 1⟩⟩, inserted⟩] = edited := by decide
  have hstart : text.editOffset ⟨0, 9⟩ = 1 := by decide
  have hstop : text.editOffset ⟨1, 1⟩ = 7 := by decide
  have hfirst : edited.octetToPosition? 1 = some ⟨0, 1⟩ := by decide
  have hlast : edited.octetToPosition? 6 = some ⟨1, 1⟩ := by decide
  have hdeleted : text.slice 1 7 = ['\r', '\n', '😀'] := by decide
  have hlength : octets inserted = 5 := by decide
  obtain ⟨-, first, last, hfirst', hlast', hundone, -⟩ :=
    an_edit_is_undone_at_the_ends_of_what_it_inserted text inserted ⟨⟨0, 9⟩, ⟨1, 1⟩⟩ htext hinserted
  simp only [hedited, hstart, hstop, hlength] at hfirst' hlast' hundone
  obtain rfl : (⟨0, 1⟩ : Position) = first := Option.some.inj (hfirst.symm.trans hfirst')
  obtain rfl : (⟨1, 1⟩ : Position) = last := Option.some.inj (hlast.symm.trans hlast')
  refine ⟨htext, hinserted, hedited, hfirst, hlast, ?_⟩
  rwa [show max 7 1 = 7 from rfl, hdeleted] at hundone

end Text

end DelugeAssist
