-- From an offset to its position and back. Each offset up to the end of a text lies in the piece of
-- one line; its position stands for the offset itself, or for the end of what the line shows where
-- the offset lies behind that.

import DelugeAssist.Proofs.Text.Breaks
import DelugeAssist.Proofs.Text.Place

namespace DelugeAssist

namespace Text

/-! ## The piece of an offset -/

/-- Each offset up to the end of a text, also one inside a character, lies in a line's piece. -/
theorem exists_lineSplit_of_le {text : Text} {offset : Nat} (h : offset ≤ octets text) :
    ∃ i above piece below, LineSplit text i above piece below ∧ octets above ≤ offset ∧
      offset ≤ octets above + octets piece := by
  have hlow := octets_takeOctets_le offset text
  have hhigh := @lt_of_dropOctets_eq_cons offset text
  have hwhole := takeOctets_append_dropOctets offset text
  obtain ⟨above, shown, behind, below, hbefore, hafter, hsplit⟩ :=
    exists_lineSplit_of_cut (text.takeOctets offset) (text.dropOctets offset)
  rw [hwhole] at hsplit
  rw [hbefore, octets_append] at hlow
  refine ⟨_, above, shown ++ behind, below, hsplit, by omega, ?_⟩
  rw [hbefore, hafter, octets_append] at hhigh
  rw [octets_append]
  rcases behind with _ | ⟨c, more⟩
  · rcases below with _ | ⟨c, more⟩
    · rw [hsplit.eq_append] at h
      simpa using h
    · -- Behind the piece comes a feed, which is too narrow for an offset inside it.
      obtain rfl : c = '\n' := hsplit.opens c rfl
      have hfeed : '\n'.utf8Size = 1 := by decide
      have := hhigh rfl
      omega
  · have := hhigh rfl
    rw [octets_cons]
    omega

namespace LineSplit

variable {text above piece below : Text} {i offset : Nat}

/-- The line of a piece is the last one that starts at or before an offset of the piece. -/
theorem lt_of_later (h : LineSplit text i above piece below)
    (hstop : offset ≤ octets above + octets piece) {later next : Nat} (hlater : i < later)
    (hnext : text.lineStarts[later]? = some next) : offset < next := by
  have hcount : (lineStarts above).length = i + 1 := by
    rw [← h.count_above]
    exact lineCount_eq above
  rw [h.lineStarts_eq, List.getElem?_append_right (by omega)] at hnext
  have := (le_octets_of_mem_startsAfter (List.mem_of_getElem? hnext)).1
  omega

/-- Above a line stands at least one octet for each line. -/
theorem le_octets_above (h : LineSplit text i above piece below) : i ≤ octets above := by
  rw [← h.count_above]
  exact List.count_le_length.trans (length_le_octets above)

theorem isBoundary_of_isPrefix (h : LineSplit text i above piece below) {shown : Text}
    (hshown : shown <+: piece) : text.isBoundary (octets above + octets shown) = true := by
  obtain ⟨behind, rfl⟩ := hshown
  rw [h.eq_append, ← octets_append, ← List.append_assoc above, List.append_assoc _ behind]
  exact isBoundary_octets_append _ _

/-- An offset of a piece lies between two characters of the text just if, held at the end of what
the line shows, it lies between two characters of that. -/
theorem isBoundary_iff (h : LineSplit text i above piece below) (hstart : octets above ≤ offset)
    (hstop : offset ≤ octets above + octets piece) :
    text.isBoundary offset = true ↔ (stripReturn piece).isBoundary
      (min (offset - octets above) (octets (stripReturn piece))) = true := by
  constructor
  · intro hboundary
    obtain ⟨before, hbefore, rfl⟩ := isBoundary_iff_isPrefix.mp hboundary
    have habove : above <+: text := ⟨piece ++ below, by rw [h.eq_append, List.append_assoc]⟩
    have hpiece : above ++ piece <+: text := ⟨below, h.eq_append.symm⟩
    obtain ⟨shown, rfl⟩ := isPrefix_of_octets_le habove hbefore hstart
    have hshown : shown <+: piece := (List.prefix_append_right_inj above).mp
      (isPrefix_of_octets_le hbefore hpiece (by rwa [octets_append above piece]))
    rw [octets_append, Nat.add_sub_cancel_left, isBoundary_iff_isPrefix]
    rcases List.prefix_or_prefix_of_prefix hshown (stripReturn_isPrefix piece) with hin | hover
    · exact ⟨shown, hin, (Nat.min_eq_left (octets_le_of_isPrefix hin)).symm⟩
    · exact ⟨_, List.prefix_refl _, (Nat.min_eq_right (octets_le_of_isPrefix hover)).symm⟩
  · intro hboundary
    obtain ⟨shown, hshown, hlength⟩ := isBoundary_iff_isPrefix.mp hboundary
    rcases Nat.lt_or_ge (octets (stripReturn piece)) (offset - octets above) with hover | hin
    · -- Only one return is not shown, so the offset is the one behind it.
      have hwhole : offset = octets above + octets piece := by
        have hlost := octets_lastReturn_le piece
        have hpiece := congrArg octets (stripReturn_append_lastReturn piece)
        rw [octets_append] at hpiece
        omega
      rw [hwhole]
      exact h.isBoundary_of_isPrefix (List.prefix_refl piece)
    · have hreached : offset = octets above + octets shown := by omega
      rw [hreached]
      exact h.isBoundary_of_isPrefix (hshown.trans (stripReturn_isPrefix piece))

end LineSplit

/-! ## The line of an offset -/

/-- Line `number`, which starts at `start` and shows `line`, is the last one that starts at or
before an offset. -/
structure LineOf (text : Text) (offset number start : Nat) (line : Text) : Prop where
  start_eq : text.lineStarts[number]? = some start
  line_eq : text.line? number = some line
  start_le : start ≤ offset
  lt_later : ∀ later next, number < later → text.lineStarts[later]? = some next → offset < next

theorem LineSplit.lineOf {text above piece below : Text} {i offset : Nat}
    (h : LineSplit text i above piece below) (hstart : octets above ≤ offset)
    (hstop : offset ≤ octets above + octets piece) :
    LineOf text offset i (octets above) (stripReturn piece) where
  start_eq := h.start_eq
  line_eq := h.line?_eq
  start_le := hstart
  lt_later _ _ := h.lt_of_later hstop

/-- An offset has no position just if it lies past the end of the text or inside a character. Any
other stands on the last line that starts at or before it, and its position stands for the offset
itself or, where the offset lies behind what that line shows, for the end of the line. -/
theorem an_offset_comes_back_or_becomes_the_end_of_its_line (text : Text) (offset : Nat) :
    (text.octetToPosition? offset = none ↔
      octets text < offset ∨ text.isBoundary offset = false) ∧
    (text.isBoundary offset = true → ∃ position start line,
      text.octetToPosition? offset = some position ∧
      LineOf text offset position.line start line ∧
      text.positionToOctet? position = some (min offset (start + octets line)) ∧
      (offset ≤ start + octets line → text.positionToOctet? position = some offset) ∧
      (octets text < UInt32.size →
        position.line < UInt32.size ∧ position.character < UInt32.size)) := by
  rcases Nat.lt_or_ge (octets text) offset with hpast | hin
  · have hnone : text.octetToPosition? offset = none := if_pos hpast
    refine ⟨iff_of_true hnone (.inl hpast), ?_⟩
    intro hoffset
    exact absurd (le_octets_of_isBoundary hoffset) (Nat.not_le_of_lt hpast)
  · obtain ⟨i, above, piece, below, hsplit, hstart, hstop⟩ := exists_lineSplit_of_le hin
    have hposition := hsplit.octetToPosition?_of_le hstart hstop
    have hboundary := hsplit.isBoundary_iff hstart hstop
    constructor
    · rw [or_iff_right (Nat.not_lt_of_le hin), hposition, Option.map_eq_none_iff,
        octetToColumn?_eq_none_iff, ← Bool.not_eq_true, ← Bool.not_eq_true, hboundary]
    · intro hoffset
      obtain ⟨reached, hreached, hlength⟩ :=
        isBoundary_iff_isPrefix.mp (hboundary.mp hoffset)
      obtain ⟨left, hleft⟩ := hreached
      rw [← hlength, ← hleft, octetToColumn?_octets_append, Option.map_some] at hposition
      have hback : text.positionToOctet? ⟨i, units reached⟩ =
          some (min offset (octets above + octets (stripReturn piece))) := by
        rw [positionToOctet?_of_line hsplit.line?_eq hsplit.start_eq, ← hleft,
          columnPrefix_units_append, hleft]
        congr 1
        omega
      refine ⟨⟨i, units reached⟩, octets above, stripReturn piece, hposition,
        hsplit.lineOf hstart hstop, hback, ?_, ?_⟩
      · intro hshown
        rw [hback, Nat.min_eq_left hshown]
      · intro hsize
        have hline := hsplit.le_octets_above
        have hcolumn := units_le_octets reached
        exact ⟨by dsimp only; omega, by dsimp only; omega⟩

/-- Between the two characters of a break, at the end of what a line shows, inside a character and
past the end of the text. -/
theorem an_offset_inside_a_break_becomes_the_line_end :
    let text : Text := "aé\r\nb\r".toList
    LineOf text 4 0 0 "aé".toList ∧ text.octetToPosition? 4 = some ⟨0, 2⟩ ∧
    text.positionToOctet? ⟨0, 2⟩ = some 3 ∧
    (∃ position, text.octetToPosition? 6 = some position ∧
      text.positionToOctet? position = some 6 ∧ position.character < UInt32.size) ∧
    text.octetToPosition? 2 = none ∧ text.octetToPosition? 8 = none := by
  intro text
  have hlength : octets text = 7 := by decide +kernel
  obtain ⟨hinside, -⟩ := an_offset_comes_back_or_becomes_the_end_of_its_line text 2
  obtain ⟨-, hbreak⟩ := an_offset_comes_back_or_becomes_the_end_of_its_line text 4
  obtain ⟨-, hshown⟩ := an_offset_comes_back_or_becomes_the_end_of_its_line text 6
  obtain ⟨hpast, -⟩ := an_offset_comes_back_or_becomes_the_end_of_its_line text 8
  obtain ⟨position, start, line, hposition, hline, hback, -, -⟩ :=
    hbreak (by decide +kernel)
  obtain ⟨last, below, shown, hlast, hlower, -, hsame, hnarrow⟩ :=
    hshown (by decide +kernel)
  have hmiddle : text.octetToPosition? 4 = some ⟨0, 2⟩ := by decide +kernel
  have hend : text.octetToPosition? 6 = some ⟨1, 1⟩ := by decide +kernel
  obtain rfl := Option.some.inj (hmiddle.symm.trans hposition)
  obtain rfl := Option.some.inj (hend.symm.trans hlast)
  have hstart : text.lineStarts[0]? = some 0 := by decide +kernel
  have hbelow : text.lineStarts[1]? = some 5 := by decide +kernel
  have htext : text.line? 0 = some "aé".toList := by decide +kernel
  obtain rfl := Option.some.inj (hstart.symm.trans hline.start_eq)
  obtain rfl := Option.some.inj (hbelow.symm.trans hlower.start_eq)
  obtain rfl := Option.some.inj (htext.symm.trans hline.line_eq)
  refine ⟨hline, hposition, hback.trans (by decide +kernel), ⟨⟨1, 1⟩, hlast, ?_, ?_⟩,
    hinside.mpr (.inr (by decide +kernel)), hpast.mpr (.inl (by omega))⟩
  · have hb : text.line? 1 = some "b".toList := by decide +kernel
    obtain rfl := Option.some.inj (hb.symm.trans hlower.line_eq)
    exact hsame (by decide +kernel)
  · exact (hnarrow (by rw [hlength]; decide)).2

end Text

end DelugeAssist
