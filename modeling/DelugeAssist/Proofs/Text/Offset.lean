-- The text before a position. An edit resolves a position to the length of a prefix of the text,
-- and positions in order to prefixes in order, so an edit with a range in order cuts the text in
-- three and replaces the middle.

import DelugeAssist.Proofs.Text.Column
import DelugeAssist.Proofs.Text.Line
import DelugeAssist.Text.Edit

namespace DelugeAssist

/-! ## The order of positions -/

namespace Position

/-- Positions in the order of lines, and of columns within a line. -/
instance : LE Position where
  le first second := first.line < second.line ∨
    first.line = second.line ∧ first.character ≤ second.character

theorem le_def {first second : Position} :
    first ≤ second ↔ first.line < second.line ∨
      first.line = second.line ∧ first.character ≤ second.character := Iff.rfl

instance (first second : Position) : Decidable (first ≤ second) :=
  decidable_of_iff _ le_def.symm

end Position

namespace Text

/-! ## The text before a position -/

/-- The text before a column of a line; the whole text where the line is missing. -/
def upTo : Text → (line column : Nat) → Text
  | text, 0, column => columnPrefix (firstLine text) column
  | [], _ + 1, _ => []
  | c :: rest, line + 1, column => c :: upTo rest (lineBehind c line) column

@[simp] theorem upTo_zero (text : Text) (column : Nat) :
    upTo text 0 column = columnPrefix (firstLine text) column := by
  cases text <;> rfl

@[simp] theorem upTo_nil_succ (line column : Nat) : upTo [] (line + 1) column = [] := rfl

@[simp] theorem upTo_cons_succ (c : Char) (rest : Text) (line column : Nat) :
    upTo (c :: rest) (line + 1) column = c :: upTo rest (lineBehind c line) column := rfl

theorem upTo_isPrefix (text : Text) (line column : Nat) : upTo text line column <+: text := by
  induction text generalizing line with
  | nil =>
    cases line with
    | zero => rw [upTo_zero]; exact columnPrefix_isPrefix _ column
    | succ line => simp
  | cons c rest ih =>
    cases line with
    | zero =>
      rw [upTo_zero]
      exact (columnPrefix_isPrefix _ column).trans (firstLine_isPrefix _)
    | succ line => exact List.prefix_cons_inj c |>.mpr (ih _)

theorem upTo_of_missing {text : Text} {line : Nat} (h : text.line? line = none) (column : Nat) :
    upTo text line column = text := by
  induction text generalizing line with
  | nil =>
    cases line with
    | zero => simp at h
    | succ line => rfl
  | cons c rest ih =>
    cases line with
    | zero => simp at h
    | succ line =>
      rw [line?_cons_succ] at h
      rw [upTo_cons_succ, ih h]

/-- The first line of a text comes before every position of a later line. -/
theorem firstLine_isPrefix_upTo (text : Text) (line column : Nat) :
    firstLine text <+: upTo text (line + 1) column := by
  suffices h : ∀ (text : Text) (line : Nat),
      text.takeWhile (· ≠ '\n') <+: upTo text (line + 1) column from
    (stripReturn_isPrefix _).trans (h text line)
  intro text
  induction text with
  | nil => simp
  | cons c rest ih =>
    intro line
    by_cases hc : c = '\n'
    · simp [hc]
    · simp only [upTo_cons_succ, lineBehind, hc, if_false]
      rw [List.takeWhile_cons_of_pos (by simpa using hc)]
      exact List.prefix_cons_inj c |>.mpr (ih line)

/-- Positions in order have prefixes in order. -/
theorem upTo_mono (text : Text) {first second : Position} (h : first ≤ second) :
    upTo text first.line first.character <+: upTo text second.line second.character := by
  obtain ⟨line, column⟩ := first
  obtain ⟨line', column'⟩ := second
  simp only [Position.le_def] at h ⊢
  induction text generalizing line line' with
  | nil =>
    cases line <;> cases line' <;> simp [firstLine, stripReturn]
  | cons c rest ih =>
    cases line' with
    | zero =>
      obtain ⟨rfl, hcol⟩ : line = 0 ∧ column ≤ column' := by omega
      simpa using columnPrefix_mono (firstLine (c :: rest)) hcol
    | succ line' =>
      cases line with
      | zero =>
        rw [upTo_zero]
        exact (columnPrefix_isPrefix _ column).trans (firstLine_isPrefix_upTo _ line' column')
      | succ line =>
        refine List.prefix_cons_inj c |>.mpr (ih _ _ ?_)
        unfold lineBehind
        split <;> omega

/-! ## Offsets -/

theorem positionToOctet?_cons_succ (c : Char) (rest : Text) (line column : Nat) :
    positionToOctet? (c :: rest) ⟨line + 1, column⟩ =
      (positionToOctet? rest ⟨lineBehind c line, column⟩).map (c.utf8Size + ·) := by
  simp only [positionToOctet?, lineStarts_cons_succ, line?_cons_succ]
  cases (lineStarts rest)[lineBehind c line]? with
  | none => rfl
  | some start =>
    cases line? rest (lineBehind c line) with
    | none => rfl
    | some shown => simp [Nat.add_assoc]

/-- A position resolves where its line is there, to the length of the text before it. -/
theorem positionToOctet?_eq (text : Text) (position : Position) :
    text.positionToOctet? position =
      (text.line? position.line).map
        fun _ => octets (upTo text position.line position.character) := by
  obtain ⟨line, column⟩ := position
  simp only
  induction text generalizing line with
  | nil =>
    cases line with
    | zero => simp [positionToOctet?, columnOctet_eq]
    | succ line => simp [positionToOctet?]
  | cons c rest ih =>
    cases line with
    | zero => simp [positionToOctet?, columnOctet_eq]
    | succ line =>
      rw [positionToOctet?_cons_succ, ih, line?_cons_succ]
      simp [Function.comp_def]

/-- A position that stands for an offset is on a line that is there, behind as much text. -/
theorem exists_line_of_positionToOctet? {text : Text} {position : Position} {offset : Nat}
    (h : text.positionToOctet? position = some offset) :
    ∃ line, text.line? position.line = some line ∧
      octets (upTo text position.line position.character) = offset := by
  rw [positionToOctet?_eq] at h
  exact Option.map_eq_some_iff.mp h

theorem positionToOctet?_of_line {text line : Text} {number start : Nat}
    (hline : text.line? number = some line) (hstart : text.lineStarts[number]? = some start)
    (column : Nat) :
    text.positionToOctet? ⟨number, column⟩ =
      some (start + octets (columnPrefix line column)) := by
  simp [positionToOctet?, hline, hstart, columnOctet_eq]

theorem lineBefore?_eq (text : Text) (position : Position) :
    text.lineBefore? position =
      (text.line? position.line).map (columnPrefix · position.character) := by
  unfold lineBefore?
  rcases text.line? position.line with _ | line
  · rfl
  · obtain ⟨after, hafter⟩ := columnPrefix_isPrefix line position.character
    have hcut := takeOctets_octets_append (columnPrefix line position.character) after
    rw [hafter] at hcut
    simp [columnOctet_eq, hcut]

/-- The offset that an edit takes for a position is the length of the text before it. -/
theorem editOffset_eq (text : Text) (position : Position) :
    text.editOffset position = octets (upTo text position.line position.character) := by
  unfold editOffset
  rw [positionToOctet?_eq]
  cases h : text.line? position.line with
  | none => simp [upTo_of_missing h]
  | some line => simp

/-- A change with a range in order replaces what lies between the text before its start and the
text before its end. -/
theorem applyChange_of_le (text inserted : Text) {range : Range} (h : range.start ≤ range.stop) :
    ∃ before middle after, text = before ++ middle ++ after ∧
      upTo text range.start.line range.start.character = before ∧
      upTo text range.stop.line range.stop.character = before ++ middle ∧
      text.applyChange ⟨some range, inserted⟩ = before ++ inserted ++ after := by
  obtain ⟨middle, hmiddle⟩ := upTo_mono text h
  obtain ⟨after, hafter⟩ := upTo_isPrefix text range.stop.line range.stop.character
  refine ⟨_, middle, after, by rw [hmiddle, hafter], rfl, hmiddle.symm, ?_⟩
  simp only [applyChange, editOffset_eq]
  generalize upTo text range.start.line range.start.character = before at hmiddle
  rw [← hmiddle] at hafter ⊢
  rw [Nat.max_eq_left (by simp), octets_append, ← hafter, splice_append]

/-- The offsets of an edit cut its text in three and the middle is replaced, whatever the range. -/
theorem applyChange_of_range (text inserted : Text) (range : Range) :
    ∃ before middle after, text = before ++ middle ++ after ∧
      upTo text range.start.line range.start.character = before ∧
      max (text.editOffset range.stop) (text.editOffset range.start) =
        octets before + octets middle ∧
      text.applyChange ⟨some range, inserted⟩ = before ++ inserted ++ after := by
  have hstart := upTo_isPrefix text range.start.line range.start.character
  have hstop := upTo_isPrefix text range.stop.line range.stop.character
  simp only [applyChange, editOffset_eq]
  generalize upTo text range.start.line range.start.character = before at hstart
  generalize upTo text range.stop.line range.stop.character = through at hstop
  rcases Nat.le_total (octets before) (octets through) with h | h
  · obtain ⟨middle, rfl⟩ := isPrefix_of_octets_le hstart hstop h
    obtain ⟨after, rfl⟩ := hstop
    have hmax : max (octets (before ++ middle)) (octets before) =
        octets before + octets middle := by
      rw [Nat.max_eq_left h, octets_append]
    exact ⟨before, middle, after, rfl, rfl, hmax, by rw [hmax, splice_append]⟩
  · obtain ⟨after, rfl⟩ := hstart
    have hmax : max (octets through) (octets before) = octets before + octets [] := by
      rw [Nat.max_eq_right h]
      rfl
    refine ⟨before, [], after, by simp, rfl, hmax, ?_⟩
    rw [hmax]
    simpa using splice_append before [] after inserted

end Text

end DelugeAssist
