-- Breaks of two characters under edits. No position stands for the place between a carriage return
-- and the feed behind it, and neither does the end of the text, so an edit never parts the two: a
-- text in which each return has its feed stays one, as long as what is inserted is such a text too.

import DelugeAssist.Proofs.Text.Breaks
import DelugeAssist.Proofs.Text.Returns

namespace DelugeAssist

namespace Text

/-- The offset lies between a return and the feed right behind it. -/
def InsideBreak (text : Text) (offset : Nat) : Prop :=
  ∃ above below, text = above ++ '\r' :: '\n' :: below ∧ offset = octets above + 1

theorem not_insideBreak_of_reaches {text : Text} {offset : Nat} (h : text.Reaches offset) :
    ¬ text.InsideBreak offset := by
  rintro ⟨above, below, rfl, rfl⟩
  have hcut := @reaches_iff (above ++ ['\r']) ('\n' :: below)
  rw [List.append_assoc, List.singleton_append, octets_append] at hcut
  exact hcut.mp h ⟨List.getLast?_concat, by simp⟩

theorem not_insideBreak_octets (text : Text) : ¬ text.InsideBreak (octets text) := by
  rintro ⟨above, below, rfl, hlength⟩
  have hfeed : '\n'.utf8Size = 1 := by decide
  have hreturn : '\r'.utf8Size = 1 := by decide
  simp only [octets_append, octets_cons] at hlength
  omega

/-- Neither end of the range of an edit lies inside a break, whatever its positions are. -/
theorem not_insideBreak_editOffset (text : Text) (position : Position) :
    ¬ text.InsideBreak (text.editOffset position) := by
  unfold editOffset
  rcases hoffset : text.positionToOctet? position with _ | offset
  · exact not_insideBreak_octets text
  · exact not_insideBreak_of_reaches ⟨position, hoffset⟩

/-- Up to a place that is not inside a break, a text with paired returns has them paired. -/
theorem pairedReturns_of_isPrefix {text before : Text} (h : PairedReturns text)
    (hbefore : before <+: text) (hcut : ¬ text.InsideBreak (octets before)) :
    PairedReturns before := by
  obtain ⟨after, rfl⟩ := hbefore
  have hlast : before.getLast? ≠ some '\r' := by
    intro hlast
    obtain ⟨above, rfl⟩ := List.getLast?_eq_some_iff.mp hlast
    rw [List.append_assoc] at h
    have hnext := (pairedReturns_of_append h).1 rfl
    obtain ⟨below, rfl⟩ := List.head?_eq_some_iff.mp hnext
    exact hcut ⟨above, below, by simp, by rw [octets_append]; rfl⟩
  exact ((pairedReturns_append_iff hlast).mp h).1

/-- What stands before an end of an edit keeps its returns paired. -/
theorem pairedReturns_upTo {text : Text} (h : PairedReturns text) (position : Position) :
    PairedReturns (upTo text position.line position.character) := by
  refine pairedReturns_of_isPrefix h (upTo_isPrefix _ _ _) ?_
  rw [← editOffset_eq]
  exact not_insideBreak_editOffset text position

theorem pairedReturns_applyChange {text : Text} {change : Change} (htext : PairedReturns text)
    (hchange : PairedReturns change.text) : PairedReturns (text.applyChange change) := by
  obtain ⟨_ | range, inserted⟩ := change
  · exact hchange
  · obtain ⟨before, middle, after, hsplit, hbefore, -, happly⟩ :=
      applyChange_of_range text inserted range
    have hleft : PairedReturns before := hbefore ▸ pairedReturns_upTo htext range.start
    have hright : PairedReturns after := pairedReturns_of_append (hsplit ▸ htext)
    rw [happly]
    exact pairedReturns_append (pairedReturns_append hleft hchange) hright

/-- No position stands for the place between a carriage return and the feed behind it, and no edit
begins or ends its range there. So if each return of a text has a feed right behind it, and in each
inserted text too, then it is so after any changes, wherever they point. -/
theorem edits_leave_breaks_whole :
    (∀ (text : Text) (position : Position),
      (∀ offset, text.positionToOctet? position = some offset → ¬ text.InsideBreak offset) ∧
      ¬ text.InsideBreak (text.editOffset position)) ∧
    (∀ (text : Text) (changes : List Change), PairedReturns text →
      (∀ change ∈ changes, PairedReturns change.text) →
      PairedReturns (text.applyChanges changes)) := by
  constructor
  · intro text position
    refine ⟨?_, not_insideBreak_editOffset text position⟩
    intro offset hoffset
    exact not_insideBreak_of_reaches ⟨position, hoffset⟩
  · intro text changes htext hchanges
    induction changes generalizing text with
    | nil => exact htext
    | cons change later ih =>
      have hstep := pairedReturns_applyChange htext (hchanges change (by simp))
      exact ih (text.applyChange change) hstep fun other hother => hchanges other (by simp [hother])

/-- Past the end of an empty line and into a pair of units, then from a line that is not there back
to the end of another. -/
theorem edits_past_an_empty_line_leave_breaks_whole :
    let text : Text := ['x', '\r', '\n', '\r', '\n', '😀']
    let changes : List Change :=
      [⟨some ⟨⟨1, 5⟩, ⟨2, 1⟩⟩, ['\r', '\n']⟩, ⟨some ⟨⟨7, 0⟩, ⟨0, 4⟩⟩, ['é']⟩]
    let edited : Text := ['x', '\r', '\n', '\r', '\n', 'é']
    text.positionToOctet? ⟨1, 5⟩ = some 3 ∧ ¬ text.InsideBreak 3 ∧
    PairedReturns text ∧ (∀ change ∈ changes, PairedReturns change.text) ∧
    text.applyChanges changes = edited ∧ PairedReturns edited := by
  intro text changes edited
  obtain ⟨hpositions, hruns⟩ := edits_leave_breaks_whole
  have hoffset : text.positionToOctet? ⟨1, 5⟩ = some 3 := by decide
  have htext : PairedReturns text := by decide
  have hchanges : ∀ change ∈ changes, PairedReturns change.text := by decide
  have hedited : text.applyChanges changes = edited := by decide
  -- Kept as values the texts would be edited again at each mention of the result.
  clear_value text changes edited
  refine ⟨hoffset, (hpositions text ⟨1, 5⟩).1 3 hoffset, htext, hchanges, hedited, ?_⟩
  rw [← hedited]
  exact hruns text changes htext hchanges

end Text

end DelugeAssist
