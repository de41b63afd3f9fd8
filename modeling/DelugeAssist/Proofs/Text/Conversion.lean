-- The two conversions of the columns of a line. Each offset at a boundary has a column, that column
-- stands for the offset again, and further offsets have further columns; a column that stands for
-- an offset is the one read back, unless it lies inside a pair of units, where the next one is.

import DelugeAssist.Proofs.Text.ColumnEnd
import DelugeAssist.Proofs.Text.Normalisation

namespace DelugeAssist

namespace Text

/-! ## Offsets with a column -/

/-- The offsets that have a column are the lengths of the prefixes, and the column counts the units
of the same prefix. -/
theorem octetToColumn?_eq_some_iff {line : Text} {octet column : Nat} :
    line.octetToColumn? octet = some column ↔
      ∃ before, before <+: line ∧ octets before = octet ∧ units before = column := by
  constructor
  · intro h
    unfold octetToColumn? at h
    split at h
    · rename_i hboundary
      obtain ⟨before, hbefore, rfl⟩ := isBoundary_iff_isPrefix.mp hboundary
      rw [takeOctets_of_isPrefix hbefore, Option.some.injEq] at h
      exact ⟨before, hbefore, rfl, h⟩
    · cases h
  · rintro ⟨before, ⟨after, rfl⟩, rfl, rfl⟩
    exact octetToColumn?_octets_append before after

/-- The column that counts the units of a prefix stands for its end, also at the end of the line. -/
theorem columnToOctet?_of_isPrefix {line before : Text} (h : before <+: line) :
    line.columnToOctet? (units before) = some (octets before) := by
  obtain ⟨after, rfl⟩ := h
  rw [columnToOctet?_eq, columnPrefix_units_append, if_pos]
  by_cases hafter : after = []
  · simp [hafter]
  · simp [hafter]

/-- Of two prefixes of a line, the one of fewer octets has fewer units. -/
theorem units_lt_of_octets_lt {shorter longer line : Text} (hshorter : shorter <+: line)
    (hlonger : longer <+: line) (h : octets shorter < octets longer) :
    units shorter < units longer := by
  obtain ⟨_ | ⟨c, rest⟩, rfl⟩ := isPrefix_of_octets_le hshorter hlonger h.le
  · simp at h
  · have := unitsOf_pos c
    rw [units_append, units_cons]
    omega

/-! ## Columns with an offset -/

/-- A column that stands for an offset stands for the end of its prefix. -/
theorem octetToColumn?_of_columnToOctet? {line : Text} {column octet : Nat}
    (h : line.columnToOctet? column = some octet) :
    line.octetToColumn? octet = some (line.normalColumn column) := by
  rw [columnToOctet?_eq] at h
  split at h
  · obtain rfl := Option.some.inj h
    exact octetToColumn?_eq_some_iff.mpr ⟨_, columnPrefix_isPrefix line column, rfl, rfl⟩
  · cases h

theorem le_units_of_columnToOctet? {line : Text} {column octet : Nat}
    (h : line.columnToOctet? column = some octet) : column ≤ units line := by
  by_contra hpast
  rw [columnToOctet?_eq_none_iff.mpr (.inl (Nat.not_le.mp hpast))] at h
  cases h

/-- A column of a line comes back behind the pair that it lies inside of, and else as it is. -/
theorem normalColumn_cases {line : Text} {column : Nat} (h : column ≤ units line) :
    line.InsidePair column ∧ line.normalColumn column = column + 1 ∨
      ¬ line.InsidePair column ∧ line.normalColumn column = column := by
  by_cases hinside : line.InsidePair column
  · exact .inl ⟨hinside, normalColumn_of_insidePair hinside⟩
  · exact .inr ⟨hinside, units_columnPrefix_iff.mpr ⟨h, hinside⟩⟩

/-- An offset of a line has no column just if it lies past the end or inside a character. Each other
offset has a column that stands for it, and further offsets have further columns. A column that
stands for an offset stands for one between two characters; the column of that offset is the column
itself, or the next one just if the column lies inside a pair of units. -/
theorem columns_and_offsets_lead_to_each_other (line : Text) :
    (∀ octet, line.octetToColumn? octet = none ↔
      octets line < octet ∨ line.isBoundary octet = false) ∧
    (∀ octet, line.isBoundary octet = true → ∃ column,
      line.octetToColumn? octet = some column ∧ line.columnToOctet? column = some octet) ∧
    (∀ first second column further, line.octetToColumn? first = some column →
      line.octetToColumn? second = some further → first < second → column < further) ∧
    (∀ column octet, line.columnToOctet? column = some octet →
      line.isBoundary octet = true ∧
      (line.octetToColumn? octet = some column ∨ line.octetToColumn? octet = some (column + 1)) ∧
      (line.octetToColumn? octet = some (column + 1) ↔ line.InsidePair column)) := by
  refine ⟨?_, ?_, ?_, ?_⟩
  · intro octet
    rw [octetToColumn?_eq_none_iff]
    constructor
    · exact .inr
    · rintro (hpast | hinside)
      · by_contra hboundary
        rw [Bool.not_eq_false] at hboundary
        exact Nat.not_le_of_lt hpast (le_octets_of_isBoundary hboundary)
      · exact hinside
  · intro octet hboundary
    obtain ⟨before, hbefore, rfl⟩ := isBoundary_iff_isPrefix.mp hboundary
    exact ⟨units before, octetToColumn?_eq_some_iff.mpr ⟨before, hbefore, rfl, rfl⟩,
      columnToOctet?_of_isPrefix hbefore⟩
  · intro first second column further hcolumn hfurther hlt
    obtain ⟨shorter, hshorter, rfl, rfl⟩ := octetToColumn?_eq_some_iff.mp hcolumn
    obtain ⟨longer, hlonger, rfl, rfl⟩ := octetToColumn?_eq_some_iff.mp hfurther
    exact units_lt_of_octets_lt hshorter hlonger hlt
  · intro column octet h
    have hback := octetToColumn?_of_columnToOctet? h
    obtain ⟨before, hbefore, hend, -⟩ := octetToColumn?_eq_some_iff.mp hback
    refine ⟨isBoundary_iff_isPrefix.mpr ⟨before, hbefore, hend⟩, ?_⟩
    rw [hback, Option.some.injEq, Option.some.injEq]
    rcases normalColumn_cases (le_units_of_columnToOctet? h) with
      ⟨hinside, hnext⟩ | ⟨houtside, hsame⟩
    · exact ⟨.inr hnext, iff_of_true hnext hinside⟩
    · exact ⟨.inl hsame, iff_of_false (by omega) houtside⟩

/-- Offsets around a pair, the column inside it, which is read back as the one behind it, and the
column inside the pair that ends the line, which stands for no offset. -/
theorem columns_and_offsets_around_a_pair_agree :
    let line : Text := ['é', '😀', 'b', '😀']
    (∃ column, line.octetToColumn? 6 = some column ∧ line.columnToOctet? column = some 6 ∧
      1 < column) ∧
    line.octetToColumn? 4 = none ∧ line.octetToColumn? 12 = none ∧
    line.InsidePair 2 ∧ line.columnToOctet? 2 = some 6 ∧ line.octetToColumn? 6 = some (2 + 1) ∧
    ¬ line.InsidePair 4 ∧ line.columnToOctet? 4 = some 7 ∧ line.octetToColumn? 7 = some 4 ∧
    line.InsidePair 5 ∧ line.columnToOctet? 5 = none := by
  intro line
  obtain ⟨hnone, hthere, hfurther, hback⟩ := columns_and_offsets_lead_to_each_other line
  obtain ⟨column, hcolumn, hoctet⟩ := hthere 6 (by decide)
  have hone : line.octetToColumn? 2 = some 1 := by decide
  have hpair : line.InsidePair 2 := ⟨['é'], '😀', ['b', '😀'], rfl, by decide, by decide⟩
  have hlast : line.InsidePair 5 := ⟨['é', '😀', 'b'], '😀', [], rfl, by decide, by decide⟩
  have hinside : line.columnToOctet? 2 = some 6 := by decide
  have houtside : line.columnToOctet? 4 = some 7 := by decide
  have hfour : line.octetToColumn? 7 = some 4 := by decide
  refine ⟨⟨column, hcolumn, hoctet, hfurther 2 6 1 column hone hcolumn (by decide)⟩,
    (hnone 4).mpr (.inr (by decide)), (hnone 12).mpr (.inl (by decide)), hpair, hinside,
    (hback 2 6 hinside).2.2.mpr hpair, ?_, houtside, hfour, hlast, by decide⟩
  intro hbetween
  have hfive := (hback 4 7 houtside).2.2.mpr hbetween
  rw [hfour] at hfive
  cases hfive

end Text

end DelugeAssist
