-- Positions in normal form. A position that is resolved to an offset and read back stays on its
-- line. A column inside a pair of units comes back behind the pair, and one past the end of the
-- line at that end; what comes back stands for the same offset, and comes back as itself.

import DelugeAssist.Proofs.Text.RoundTrip
import DelugeAssist.Proofs.Text.Synchronisation

namespace DelugeAssist

namespace Text

/-! ## Columns in normal form -/

/-- The column counts the units before some boundary of the line. -/
def AtBoundary (line : Text) (column : Nat) : Prop :=
  ∃ before after, line = before ++ after ∧ units before = column

/-- The column that counts the units before the place that a column stands for. -/
def normalColumn (line : Text) (column : Nat) : Nat := units (columnPrefix line column)

theorem normalColumn_of_atBoundary {line : Text} {column : Nat} (h : line.AtBoundary column) :
    line.normalColumn column = column := by
  obtain ⟨before, after, rfl, rfl⟩ := h
  rw [normalColumn, columnPrefix_units_append]

theorem normalColumn_of_insidePair {line : Text} {column : Nat} (h : line.InsidePair column) :
    line.normalColumn column = column + 1 := by
  obtain ⟨before, c, after, rfl, hlow, hhigh⟩ := h
  have hpair : unitsOf c ≤ 2 := by
    unfold unitsOf
    split <;> omega
  rw [normalColumn, columnPrefix_of_reached hlow hhigh.le, units_append, units_cons, units_nil]
  omega

theorem normalColumn_of_units_le {line : Text} {column : Nat} (h : units line ≤ column) :
    line.normalColumn column = units line := by
  rw [normalColumn, columnPrefix_of_units_le h]

theorem columnPrefix_normalColumn (line : Text) (column : Nat) :
    columnPrefix line (line.normalColumn column) = columnPrefix line column := by
  obtain ⟨after, hafter⟩ := columnPrefix_isPrefix line column
  have hcut := columnPrefix_units_append (columnPrefix line column) after
  rwa [hafter] at hcut

theorem normalColumn_normalColumn (line : Text) (column : Nat) :
    line.normalColumn (line.normalColumn column) = line.normalColumn column := by
  rw [normalColumn, columnPrefix_normalColumn, normalColumn]

/-! ## Positions in normal form -/

section Line

variable {text line : Text} {i : Nat} (hline : text.line? i = some line) (column : Nat)
include hline

theorem normal?_of_line : text.normal? ⟨i, column⟩ = some ⟨i, line.normalColumn column⟩ := by
  obtain ⟨above, piece, below, hsplit, rfl⟩ := exists_lineSplit_of_line? hline
  exact hsplit.normal?_eq column

/-- In normal form a position stands for the same offset. -/
theorem positionToOctet?_normalColumn :
    text.positionToOctet? ⟨i, line.normalColumn column⟩ = text.positionToOctet? ⟨i, column⟩ := by
  obtain ⟨above, -, -, hstart⟩ := line?_split hline
  rw [positionToOctet?_of_line hline hstart, positionToOctet?_of_line hline hstart,
    columnPrefix_normalColumn]

/-- The numbers of a position in normal form stay within the length of the text. -/
theorem add_normalColumn_le : i + line.normalColumn column ≤ octets text := by
  obtain ⟨above, piece, below, hsplit, rfl⟩ := exists_lineSplit_of_line? hline
  have habove : i ≤ octets above := hsplit.le_octets_above
  have hleft := units_le_octets (columnPrefix (stripReturn piece) column)
  have hshown := octets_le_of_isPrefix (columnPrefix_isPrefix (stripReturn piece) column)
  have hpiece := octets_le_of_isPrefix (stripReturn_isPrefix piece)
  rw [hsplit.eq_append, octets_append, octets_append, normalColumn]
  omega

end Line

/-- An offset that some position stands for is read back as a position that stands for it, with
numbers within the length of the text. -/
theorem Reaches.exists_position {text : Text} {offset : Nat} (h : text.Reaches offset) :
    ∃ position, text.octetToPosition? offset = some position ∧
      text.positionToOctet? position = some offset ∧
      position.line + position.character ≤ octets text := by
  obtain ⟨⟨i, column⟩, hoffset⟩ := h
  obtain ⟨line, hline, -⟩ := exists_line_of_positionToOctet? hoffset
  have hback := normal?_of_line hline column
  rw [normal?, hoffset, Option.bind_some] at hback
  exact ⟨_, hback, (positionToOctet?_normalColumn hline column).trans hoffset,
    add_normalColumn_le hline column⟩

theorem normalColumn_eq_iff {text line : Text} {position : Position}
    (hline : text.line? position.line = some line) :
    line.normalColumn position.character = position.character ↔ text.WellFormed position := by
  rw [normalColumn, units_columnPrefix_iff]
  constructor
  · intro hcolumn
    exact ⟨line, hline, hcolumn⟩
  · rintro ⟨shown, hshown, hcolumn⟩
    obtain rfl : line = shown := Option.some.inj (hline.symm.trans hshown)
    exact hcolumn

/-- A position on a line that is there is resolved and read back on that line: in the same column if
that lies at a boundary of the line, one column further on if it lies inside a pair of units, and at
the end of the line if it lies past that. The well-formed positions are those that come back
unchanged. What comes back stands for the same offset and comes back as itself, and its numbers fit
32 bits if the length of the text does. -/
theorem a_position_comes_back_in_normal_form (text : Text) (position : Position) {line : Text}
    (hline : text.line? position.line = some line) :
    ∃ back, text.normal? position = some back ∧ back.line = position.line ∧
      (line.AtBoundary position.character → back.character = position.character) ∧
      (line.InsidePair position.character → back.character = position.character + 1) ∧
      (units line < position.character → back.character = units line) ∧
      (back = position ↔ text.WellFormed position) ∧
      text.positionToOctet? back = text.positionToOctet? position ∧
      text.normal? back = some back ∧
      (octets text < UInt32.size → back.line < UInt32.size ∧ back.character < UInt32.size) := by
  refine ⟨⟨position.line, line.normalColumn position.character⟩, normal?_of_line hline _, rfl,
    normalColumn_of_atBoundary, normalColumn_of_insidePair, ?_, ?_,
    positionToOctet?_normalColumn hline _, ?_, ?_⟩
  · intro hpast
    exact normalColumn_of_units_le hpast.le
  · rw [← normalColumn_eq_iff hline]
    constructor
    · intro hsame
      exact congrArg Position.character hsame
    · intro hsame
      rw [hsame]
  · rw [normal?_of_line hline, normalColumn_normalColumn]
  · intro hsize
    have hsmall := add_normalColumn_le hline position.character
    exact ⟨by dsimp only; omega, by dsimp only; omega⟩

/-- A column inside the pair that ends the last line, and one past the end of a line that a break of
two characters ends. -/
theorem positions_inside_a_last_pair_come_back_behind_it :
    let text : Text := "a😀\r\nzoho.é😀".toList
    text.line? 1 = some "zoho.é😀".toList ∧ InsidePair "zoho.é😀".toList 7 ∧
    (∃ back, text.normal? ⟨1, 7⟩ = some back ∧ back.character = 8 ∧
      text.positionToOctet? back = some 18 ∧ text.normal? back = some back ∧
      back.character < UInt32.size ∧ back ≠ ⟨1, 7⟩) ∧
    text.line? 0 = some "a😀".toList ∧
    (∃ back, text.normal? ⟨0, 9⟩ = some back ∧ back.character = 3 ∧ text.WellFormed back) := by
  intro text
  have hlast : text.line? 1 = some "zoho.é😀".toList := by decide +kernel
  have hfirst : text.line? 0 = some "a😀".toList := by decide +kernel
  have hinside : InsidePair "zoho.é😀".toList 7 :=
    ⟨"zoho.é".toList, '😀', [], by decide, by decide, by decide⟩
  obtain ⟨back, hback, -, -, hmoved, -, hsame, hoffset, hagain, hsmall⟩ :=
    a_position_comes_back_in_normal_form text ⟨1, 7⟩ hlast
  obtain ⟨stop, hstop, -, -, -, hpast, -, -, -, -⟩ :=
    a_position_comes_back_in_normal_form text ⟨0, 9⟩ hfirst
  refine ⟨hlast, hinside, ⟨back, hback, hmoved hinside, ?_, hagain, ?_, ?_⟩, hfirst, stop, hstop,
    hpast (by decide), ?_⟩
  · rw [hoffset]
    decide +kernel
  · exact (hsmall (by decide +kernel)).2
  · rw [ne_eq, hsame]
    decide +kernel
  · obtain rfl : (⟨0, 3⟩ : Position) = stop := by
      rw [← Option.some.injEq, ← hstop]
      decide +kernel
    decide +kernel

end Text

end DelugeAssist
