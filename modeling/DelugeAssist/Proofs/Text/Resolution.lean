-- The offset that a position stands for: the start of its line, and from there the least boundary
-- with as many units before it as the column counts, or the end of the line where no boundary has.

import DelugeAssist.Proofs.Text.Concatenation
import Mathlib.Order.Bounds.Basic

namespace DelugeAssist

namespace Text

/-- The boundaries of a line with at least as many units before them as a column counts. -/
def covering (line : Text) (column : Nat) : Set Nat :=
  {offset | line.isBoundary offset = true ∧ column ≤ units (line.takeOctets offset)}

/-- A column that the line has stands for the least of the boundaries that cover it. -/
theorem isLeast_columnOctet {line : Text} {column : Nat} (h : column ≤ units line) :
    IsLeast (line.covering column) (line.columnOctet column) := by
  have hprefix := columnPrefix_isPrefix line column
  rw [columnOctet_eq]
  constructor
  · refine ⟨isBoundary_iff_isPrefix.mpr ⟨_, hprefix, rfl⟩, ?_⟩
    rw [takeOctets_of_isPrefix hprefix]
    exact le_units_columnPrefix h
  · rintro offset ⟨hboundary, hunits⟩
    obtain ⟨before, hbefore, rfl⟩ := isBoundary_iff_isPrefix.mp hboundary
    rw [takeOctets_of_isPrefix hbefore] at hunits
    exact octets_le_of_isPrefix (columnPrefix_isPrefix_of_le_units hbefore hunits)

/-- No boundary covers a column past the end of the line. -/
theorem covering_eq_empty {line : Text} {column : Nat} (h : units line < column) :
    line.covering column = ∅ := by
  rw [Set.eq_empty_iff_forall_notMem]
  rintro offset ⟨-, hunits⟩
  have hlength := congrArg units (takeOctets_append_dropOctets offset line)
  rw [units_append] at hlength
  omega

theorem columnOctet_of_units_le {line : Text} {column : Nat} (h : units line ≤ column) :
    line.columnOctet column = octets line := by
  rw [columnOctet_eq, columnPrefix_of_units_le h]

/-- On a line that is there, the text is cut before the line and at the position. -/
theorem exists_cut_of_line {text line : Text} {position : Position}
    (hline : text.line? position.line = some line) :
    ∃ above after, text = above ++ columnPrefix line position.character ++ after ∧
      text.lineStarts[position.line]? = some (octets above) := by
  obtain ⟨above, below, htext, hstart⟩ := line?_split hline
  obtain ⟨right, hright⟩ := columnPrefix_isPrefix line position.character
  refine ⟨above, right ++ below, ?_, hstart⟩
  rw [htext, List.append_assoc _ _ (right ++ below), ← List.append_assoc _ right, hright,
    List.append_assoc]

/-- A position stands for no offset, and there is nothing before it on its line, just if the text
has no such line. On a line that is there it stands for the least boundary with as many units before
it as the column counts, or for the end of the line where there is none; and the part of the line
before it is the text from the start of the line to there. -/
theorem a_position_stands_for_the_least_boundary_covering_it (text : Text) (position : Position) :
    (text.positionToOctet? position = none ↔ text.lineCount ≤ position.line) ∧
    (text.lineBefore? position = none ↔ text.lineCount ≤ position.line) ∧
    (position.line < text.lineCount → ∃ start line octet,
      text.lineStarts[position.line]? = some start ∧ text.line? position.line = some line ∧
      text.positionToOctet? position = some (start + octet) ∧
      (IsLeast (line.covering position.character) octet ∨
        line.covering position.character = ∅ ∧ octet = octets line) ∧
      text.isBoundary start = true ∧ text.isBoundary (start + octet) = true ∧
      text.lineBefore? position = some (text.slice start (start + octet))) := by
  refine ⟨?_, ?_, ?_⟩
  · rw [positionToOctet?_eq, Option.map_eq_none_iff, line?_eq_none_iff]
  · rw [lineBefore?_eq, Option.map_eq_none_iff, line?_eq_none_iff]
  · intro hcount
    obtain ⟨line, hline⟩ := Option.ne_none_iff_exists'.mp
      (fun hnone => Nat.not_le_of_lt hcount (line?_eq_none_iff.mp hnone))
    obtain ⟨above, after, htext, hstart⟩ := exists_cut_of_line hline
    refine ⟨octets above, line, line.columnOctet position.character, hstart, hline, ?_, ?_, ?_, ?_,
      ?_⟩
    · rw [positionToOctet?_of_line hline hstart, columnOctet_eq]
    · rcases Nat.lt_or_ge (units line) position.character with hpast | hin
      · exact .inr ⟨covering_eq_empty hpast, columnOctet_of_units_le hpast.le⟩
      · exact .inl (isLeast_columnOctet hin)
    · rw [htext, List.append_assoc]
      exact isBoundary_octets_append _ _
    · rw [columnOctet_eq, ← octets_append, htext]
      exact isBoundary_octets_append _ _
    · rw [lineBefore?_eq, hline, Option.map_some, columnOctet_eq, htext, slice_append]

/-- A column inside the pair that ends the last line. -/
theorem a_position_inside_a_last_pair_stands_for_the_line_end :
    let text : Text := "a😀\r\nzoho.é😀".toList
    let line : Text := "zoho.é😀".toList
    let position : Position := ⟨1, 7⟩
    position.line < text.lineCount ∧ text.line? position.line = some line ∧
    text.positionToOctet? position = some (7 + 11) ∧ IsLeast (line.covering 7) 11 ∧
    text.lineBefore? position = some (text.slice 7 (7 + 11)) ∧
    text.positionToOctet? ⟨2, 0⟩ = none ∧ text.lineBefore? ⟨2, 0⟩ = none := by
  intro text line position
  have hcount : position.line < text.lineCount := by decide +kernel
  have hplace : text.lineStarts[position.line]? = some 7 := by decide +kernel
  have hshown : text.line? position.line = some line := by decide +kernel
  obtain ⟨-, -, hresolved⟩ := a_position_stands_for_the_least_boundary_covering_it text position
  obtain ⟨hoffset, hleft, -⟩ := a_position_stands_for_the_least_boundary_covering_it text ⟨2, 0⟩
  obtain ⟨start, shown, octet, hstart, hline, hoctet, hleast, -, -, hbefore⟩ := hresolved hcount
  obtain rfl : 7 = start := Option.some.inj (hplace.symm.trans hstart)
  obtain rfl : line = shown := Option.some.inj (hshown.symm.trans hline)
  have heleven : text.positionToOctet? position = some (7 + 11) := by decide +kernel
  obtain rfl : 11 = octet :=
    Nat.add_left_cancel (Option.some.inj (heleven.symm.trans hoctet))
  refine ⟨hcount, hline, hoctet, ?_, hbefore, hoffset.mpr (by decide +kernel),
    hleft.mpr (by decide +kernel)⟩
  rcases hleast with hleast | ⟨hnone, -⟩
  · exact hleast
  · have hcovers : 11 ∈ line.covering 7 := ⟨by decide +kernel, by decide +kernel⟩
    rw [show line.covering 7 = ∅ from hnone] at hcovers
    cases hcovers

end Text

end DelugeAssist
