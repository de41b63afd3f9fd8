-- Columns that stand for no offset of their line. Those past the end of the line stand for none,
-- and neither do those inside the pair of units that ends it; each other column stands for the
-- least boundary that covers it, also inside a pair that has a character behind it.

import DelugeAssist.Proofs.Text.Resolution

namespace DelugeAssist

namespace Text

/-- The column lies between the two units of the character that ends the line. -/
def InsideLastPair (line : Text) (column : Nat) : Prop :=
  ∃ before c, line = before ++ [c] ∧ units before < column ∧ column < units line

/-- A column has an offset if it counts all units of the line, or if some character of the line
stands behind the part that it takes. -/
theorem columnToOctet?_eq (line : Text) (column : Nat) :
    line.columnToOctet? column =
      if column = units line ∨ columnPrefix line column ≠ line then
        some (octets (columnPrefix line column))
      else none := by
  fun_induction columnToOctet? line column with
  | case1 line => cases line <;> simp
  | case2 n => simp
  | case3 c n hc => simp [columnPrefix, hc]
  | case4 c n hc => simp [columnPrefix, Ne.symm hc]
  | case5 c d rest n ih =>
    have hrest : n + 1 = units (c :: d :: rest) ↔ n + 1 - unitsOf c = units (d :: rest) := by
      have := unitsOf_pos d
      simp only [units_cons]
      omega
    simp only [ih, columnPrefix, Nat.succ_eq_add_one, hrest, ne_eq, List.cons_inj_right]
    split <;> rfl

theorem columnToOctet?_eq_none_iff {line : Text} {column : Nat} :
    line.columnToOctet? column = none ↔ units line < column ∨ line.InsideLastPair column := by
  rw [columnToOctet?_eq, ite_eq_right_iff]
  simp only [reduceCtorEq, imp_false, not_or, not_not]
  constructor
  · rintro ⟨hne, hwhole⟩
    rcases Nat.lt_or_ge (units line) column with hpast | hin
    · exact .inl hpast
    · rcases List.eq_nil_or_concat line with rfl | ⟨before, c, rfl⟩
      · exact absurd (Nat.le_zero.mp hin) hne
      · rw [List.concat_eq_append] at *
        refine .inr ⟨before, c, rfl, ?_, by omega⟩
        -- Otherwise the column would be covered without the last character.
        by_contra hfew
        have hshort := columnPrefix_isPrefix_of_le_units (List.prefix_append before [c])
          (Nat.not_lt.mp hfew)
        rw [hwhole] at hshort
        have hlength := hshort.length_le
        rw [List.length_append, List.length_singleton] at hlength
        omega
  · rintro (hpast | ⟨before, c, rfl, hlow, hhigh⟩)
    · exact ⟨by omega, columnPrefix_of_units_le hpast.le⟩
    · refine ⟨by omega, columnPrefix_of_reached hlow ?_⟩
      simpa using hhigh.le

theorem isLeast_of_columnToOctet? {line : Text} {column octet : Nat}
    (h : line.columnToOctet? column = some octet) : IsLeast (line.covering column) octet := by
  have hin : column ≤ units line := by
    rw [← Nat.not_lt]
    intro hpast
    rw [columnToOctet?_eq_none_iff.mpr (.inl hpast)] at h
    cases h
  have hleast := isLeast_columnOctet hin
  rwa [columnOctet, h, Option.getD_some] at hleast

/-- A column has no offset just if it lies past the end of its line or inside the pair of units that
ends the line. Each other column has the least boundary with as many units before it as it counts;
inside a pair with another character behind it, that is the end of the pair. -/
theorem a_column_on_a_line_has_an_offset_but_in_a_last_pair (line : Text) (column : Nat) :
    (line.columnToOctet? column = none ↔ units line < column ∨ line.InsideLastPair column) ∧
    (∀ octet, line.columnToOctet? column = some octet → IsLeast (line.covering column) octet) ∧
    (∀ before c d after, line = before ++ c :: d :: after → units before < column →
      column < units before + unitsOf c →
      line.columnToOctet? column = some (octets (before ++ [c]))) := by
  refine ⟨columnToOctet?_eq_none_iff, fun _ => isLeast_of_columnToOctet?, ?_⟩
  rintro before c d after rfl hlow hhigh
  rw [columnToOctet?_eq, columnPrefix_of_reached hlow hhigh.le, if_pos (.inr (by simp))]

/-- Inside a pair with a letter behind it, at both ends of the pair that ends the line, and inside
that one. -/
theorem columns_around_a_last_pair_have_an_offset :
    let line : Text := ['é', '😀', 'b', '😀']
    units line = 6 ∧ line.columnToOctet? 2 = some 6 ∧ IsLeast (line.covering 2) 6 ∧
    line.columnToOctet? 4 = some 7 ∧ IsLeast (line.covering 4) 7 ∧
    line.InsideLastPair 5 ∧ line.columnToOctet? 5 = none ∧
    line.columnToOctet? 6 = some 11 ∧ IsLeast (line.covering 6) 11 ∧
    line.columnToOctet? 7 = none := by
  intro line
  have hlaw := a_column_on_a_line_has_an_offset_but_in_a_last_pair line
  have hpair : line.columnToOctet? 2 = some 6 :=
    (hlaw 2).2.2 ['é'] '😀' 'b' ['😀'] rfl (by decide) (by decide)
  have hopens : line.columnToOctet? 4 = some 7 := by decide
  have hcloses : line.columnToOctet? 6 = some 11 := by decide
  have hinside : line.InsideLastPair 5 := ⟨['é', '😀', 'b'], '😀', rfl, by decide, by decide⟩
  exact ⟨by decide, hpair, (hlaw 2).2.1 6 hpair, hopens, (hlaw 4).2.1 7 hopens, hinside,
    (hlaw 5).1.mpr (.inr hinside), hcloses, (hlaw 6).2.1 11 hcloses,
    (hlaw 7).1.mpr (.inl (by decide))⟩

/-- The line is two units long and its only boundary that covers the first of them is its end, but
the column between the two has no offset. -/
theorem a_column_inside_a_last_pair_has_no_offset :
    let line : Text := ['😀']
    1 ≤ units line ∧ IsLeast (line.covering 1) 4 ∧ line.columnToOctet? 1 = none := by
  intro line
  exact ⟨by decide, isLeast_columnOctet (by decide), by decide⟩

end Text

end DelugeAssist
