-- Columns of a line as prefixes of it. A column stands for the shortest prefix of at least as many
-- units, and for the whole line where there is none, so columns in order stand for prefixes in
-- order.

import DelugeAssist.Proofs.Text.Prefix

namespace DelugeAssist

namespace Text

/-- The part of a line before a column. The column inside a pair of units takes the whole pair. -/
def columnPrefix : Text → Nat → Text
  | _, 0 => []
  | [], _ + 1 => []
  | c :: rest, n + 1 => c :: columnPrefix rest (n + 1 - unitsOf c)

/-- The column lies between the two units of one character. -/
def InsidePair (line : Text) (column : Nat) : Prop :=
  ∃ before c after, line = before ++ c :: after ∧
    units before < column ∧ column < units before + unitsOf c

@[simp] theorem columnPrefix_zero (line : Text) : columnPrefix line 0 = [] := by
  cases line <;> rfl

@[simp] theorem columnPrefix_nil (column : Nat) : columnPrefix [] column = [] := by
  cases column <;> rfl

theorem columnPrefix_isPrefix (line : Text) (column : Nat) : columnPrefix line column <+: line := by
  induction line generalizing column with
  | nil => simp
  | cons c rest ih =>
    cases column with
    | zero => simp
    | succ n => exact List.prefix_cons_inj c |>.mpr (ih _)

/-- The offset of a column is the length of the prefix that it stands for. -/
theorem columnOctet_eq (line : Text) (column : Nat) :
    line.columnOctet column = octets (columnPrefix line column) := by
  unfold columnOctet
  induction line generalizing column with
  | nil => cases column <;> rfl
  | cons c rest ih =>
    cases column with
    | zero => rfl
    | succ n =>
      cases rest with
      | nil =>
        simp only [columnToOctet?, columnPrefix, columnPrefix_nil]
        split <;> rfl
      | cons d more =>
        have h := ih (n + 1 - unitsOf c)
        simp only [columnToOctet?, columnPrefix, octets_cons] at h ⊢
        rw [← h]
        cases columnToOctet? (d :: more) (n + 1 - unitsOf c) <;> rfl

theorem octetToColumn?_octets_append (before after : Text) :
    octetToColumn? (before ++ after) (octets before) = some (units before) := by
  unfold octetToColumn?
  rw [if_pos (isBoundary_octets_append before after), takeOctets_octets_append]

theorem octetToColumn?_eq_none_iff {line : Text} {n : Nat} :
    line.octetToColumn? n = none ↔ line.isBoundary n = false := by
  simp [octetToColumn?]

theorem columnPrefix_units_append (before after : Text) :
    columnPrefix (before ++ after) (units before) = before := by
  induction before with
  | nil => simp
  | cons c rest ih =>
    obtain ⟨n, hn⟩ : ∃ n, units (c :: rest) = n + 1 := by
      have := unitsOf_pos c
      exact ⟨units (c :: rest) - 1, by simp only [units_cons]; omega⟩
    have hrest : n + 1 - unitsOf c = units rest := by simp only [units_cons] at hn; omega
    rw [hn, List.cons_append, columnPrefix, hrest, ih]

theorem columnPrefix_mono (line : Text) {first second : Nat} (h : first ≤ second) :
    columnPrefix line first <+: columnPrefix line second := by
  induction line generalizing first second with
  | nil => simp
  | cons c rest ih =>
    cases first with
    | zero => simp
    | succ n =>
      cases second with
      | zero => omega
      | succ m => exact List.prefix_cons_inj c |>.mpr (ih (by omega))

/-- A column past the end stands for the whole line. -/
theorem columnPrefix_of_units_le {line : Text} {column : Nat} (h : units line ≤ column) :
    columnPrefix line column = line := by
  have hwhole := columnPrefix_units_append line []
  have hmono := columnPrefix_mono line h
  rw [List.append_nil] at hwhole
  rw [hwhole] at hmono
  exact (columnPrefix_isPrefix line column).eq_of_length_le hmono.length_le

/-- Within a line, no fewer units than a column counts stand before it. -/
theorem le_units_columnPrefix {line : Text} {column : Nat} (h : column ≤ units line) :
    column ≤ units (columnPrefix line column) := by
  induction line generalizing column with
  | nil => simpa using h
  | cons c rest ih =>
    cases column with
    | zero => simp
    | succ n =>
      rw [units_cons] at h
      have hrest : n + 1 - unitsOf c ≤ units (columnPrefix rest (n + 1 - unitsOf c)) :=
        ih (by omega)
      rw [columnPrefix, units_cons]
      omega

/-- No shorter part of a line has as many units as a column counts. -/
theorem columnPrefix_isPrefix_of_le_units {line before : Text} {column : Nat}
    (hbefore : before <+: line) (h : column ≤ units before) :
    columnPrefix line column <+: before := by
  obtain ⟨after, rfl⟩ := hbefore
  have hmono := columnPrefix_mono (before ++ after) h
  rwa [columnPrefix_units_append] at hmono

/-- The character whose units reach up to a column is the last one before it. -/
theorem columnPrefix_of_reached {before after : Text} {c : Char} {column : Nat}
    (hlow : units before < column) (hhigh : column ≤ units before + unitsOf c) :
    columnPrefix (before ++ c :: after) column = before ++ [c] := by
  have hreached : units (before ++ [c]) = units before + unitsOf c := by simp
  have hwithin : columnPrefix (before ++ c :: after) column <+: before ++ [c] :=
    columnPrefix_isPrefix_of_le_units ⟨after, by simp⟩ (by omega)
  rcases List.prefix_concat_iff.mp hwithin with hwhole | hshort
  · exact hwhole
  · -- What stands before `c` has too few units for the column.
    have hcovered : column ≤ units (columnPrefix (before ++ c :: after) column) := by
      apply le_units_columnPrefix
      rw [units_append, units_cons]
      omega
    obtain ⟨more, hmore⟩ := hshort
    have hlength := congrArg units hmore
    rw [units_append] at hlength
    omega

/-- A column that is no place inside a pair is met exactly by its prefix. -/
theorem units_columnPrefix_iff {line : Text} {column : Nat} :
    units (columnPrefix line column) = column ↔
      column ≤ units line ∧ ¬ line.InsidePair column := by
  constructor
  · intro h
    obtain ⟨after, hline⟩ := columnPrefix_isPrefix line column
    have hlength := congrArg units hline
    rw [units_append] at hlength
    refine ⟨by omega, ?_⟩
    rintro ⟨before, c, rest, rfl, hlow, hhigh⟩
    rw [columnPrefix_of_reached hlow (Nat.le_of_lt hhigh), units_append, units_cons,
      units_nil] at h
    omega
  · rintro ⟨hle, hin⟩
    induction line generalizing column with
    | nil => simp only [units_nil] at hle; simp; omega
    | cons c rest ih =>
      cases column with
      | zero => simp
      | succ n =>
        rcases Nat.lt_or_ge (n + 1) (unitsOf c) with hlt | hc
        · exact absurd ⟨[], c, rest, rfl, by simp, by simpa using hlt⟩ hin
        · have hrest : ¬ InsidePair rest (n + 1 - unitsOf c) := by
            rintro ⟨before, d, after, rfl, hlow, hhigh⟩
            exact hin ⟨c :: before, d, after, rfl, by simp only [units_cons]; omega,
              by simp only [units_cons]; omega⟩
          simp only [units_cons] at hle
          simp only [columnPrefix, units_cons, ih (by omega) hrest]
          omega

end Text

end DelugeAssist
