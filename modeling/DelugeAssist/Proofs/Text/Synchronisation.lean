-- A text kept in step with an editor. The editor holds UTF-16 units and edits them by counting
-- units; the text is edited by octets. As long as the editor names places that are there, in
-- order, both come to the same document after any changes.

import DelugeAssist.Proofs.Text.Offset

namespace DelugeAssist

namespace Text

/-! ## The units of a text -/

/-- The UTF-16 units of a character: one, or a high and a low one above the first plane. -/
def unitsOfChar (c : Char) : List UInt16 :=
  if c.toNat ≤ 0xFFFF then [c.toNat.toUInt16]
  else [(0xD800 + (c.toNat - 0x10000) / 0x400).toUInt16,
    (0xDC00 + (c.toNat - 0x10000) % 0x400).toUInt16]

/-- The UTF-16 units of a text. -/
def utf16 (text : Text) : List UInt16 := text.flatMap unitsOfChar

@[simp] theorem utf16_nil : utf16 [] = [] := rfl

@[simp] theorem utf16_cons (c : Char) (rest : Text) :
    utf16 (c :: rest) = unitsOfChar c ++ utf16 rest := List.flatMap_cons

@[simp] theorem utf16_append (first second : Text) :
    utf16 (first ++ second) = utf16 first ++ utf16 second := List.flatMap_append

theorem length_unitsOfChar (c : Char) : (unitsOfChar c).length = unitsOf c := by
  unfold unitsOfChar unitsOf
  split <;> rfl

@[simp] theorem length_utf16 (text : Text) : (utf16 text).length = units text := by
  induction text with
  | nil => rfl
  | cons c rest ih => simp [length_unitsOfChar, ih]

end Text

/-! ## The editor -/

namespace Editor

/-- Where a line starts: at the beginning, and after each unit that is a line feed. -/
def lineStart : List UInt16 → Nat → Nat
  | _, 0 => 0
  | [], _ + 1 => 0
  | unit :: rest, line + 1 => 1 + lineStart rest (if unit = 0x0A then line else line + 1)

/-- Where a position stands among the units. -/
def offset (document : List UInt16) (position : Position) : Nat :=
  lineStart document position.line + position.character

/-- The units after one change. -/
def apply (document : List UInt16) (change : Change) : List UInt16 :=
  match change.range with
  | none => Text.utf16 change.text
  | some range =>
    document.take (offset document range.start) ++ Text.utf16 change.text ++
      document.drop (offset document range.stop)

/-- The units after all the changes, in order. -/
def applyAll (document : List UInt16) (changes : List Change) : List UInt16 :=
  changes.foldl apply document

@[simp] theorem lineStart_zero (document : List UInt16) : lineStart document 0 = 0 := by
  cases document <;> rfl

end Editor

namespace Text

/-! ## Positions that an editor may name -/

/-- A position on a line that is there, no further than its end and inside no pair of units. -/
def WellFormed (text : Text) (position : Position) : Prop :=
  ∃ line, text.line? position.line = some line ∧ position.character ≤ units line ∧
    ¬ line.InsidePair position.character

instance (text : Text) (position : Position) : Decidable (WellFormed text position) :=
  decidable_of_iff
    (∃ line ∈ text.line? position.line,
      units (columnPrefix line position.character) = position.character) <| by
    simp only [units_columnPrefix_iff, Option.mem_def, WellFormed]

/-- A range, if the change names one, runs between two well-formed positions in order. -/
def Fits (text : Text) (change : Change) : Prop :=
  ∀ range ∈ change.range, range.start ≤ range.stop ∧
    text.WellFormed range.start ∧ text.WellFormed range.stop

instance (text : Text) (change : Change) : Decidable (Fits text change) := by
  unfold Fits; infer_instance

/-- Each change fits the text that the changes before it left. -/
def FitsAll : Text → List Change → Prop
  | _, [] => True
  | text, change :: later => Fits text change ∧ FitsAll (text.applyChange change) later

instance decideFitsAll : (text : Text) → (changes : List Change) → Decidable (FitsAll text changes)
  | _, [] => isTrue trivial
  | text, change :: later =>
    have := decideFitsAll (text.applyChange change) later
    inferInstanceAs (Decidable (Fits text change ∧ FitsAll (text.applyChange change) later))

/-! ## One change on both sides -/

theorem unitsOfChar_line (c : Char) (rest : List UInt16) (line : Nat) :
    Editor.lineStart (unitsOfChar c ++ rest) (line + 1) =
      unitsOf c + Editor.lineStart rest (lineBehind c line) := by
  have hc : c.toNat < 0x110000 := by
    have := c.valid
    rw [UInt32.isValidChar, Nat.isValidChar] at this
    rw [Char.toNat]
    omega
  unfold unitsOfChar unitsOf lineBehind
  split
  · have hunit : c.toNat.toUInt16 = 0x0A ↔ c = '\n' := by
      rw [← UInt16.toNat_inj, ← Char.toNat_inj]
      simp; omega
    simp [Editor.lineStart, hunit]
  · -- Neither unit of a pair is a line feed, and neither is the character.
    have hhigh : (0xD800 + (c.toNat - 0x10000) / 0x400).toUInt16 ≠ 0x0A := by
      rw [ne_eq, ← UInt16.toNat_inj]
      simp; omega
    have hlow : (0xDC00 + (c.toNat - 0x10000) % 0x400).toUInt16 ≠ 0x0A := by
      rw [ne_eq, ← UInt16.toNat_inj]
      simp; omega
    have hfeed : c ≠ '\n' := by
      rintro rfl
      contradiction
    simp only [List.cons_append, List.nil_append, Editor.lineStart, hhigh, hlow, hfeed, if_false]
    omega

/-- A line starts, for the editor, behind as many units as the text before it has. -/
theorem lineStart_utf16 (text : Text) (line : Nat) :
    Editor.lineStart (utf16 text) line = units (upTo text line 0) := by
  induction text generalizing line with
  | nil => cases line <;> simp [Editor.lineStart]
  | cons c rest ih =>
    cases line with
    | zero => simp
    | succ line => rw [utf16_cons, unitsOfChar_line, ih, upTo_cons_succ, units_cons]

/-- A well-formed position stands, for the editor, behind the units of the text before it. -/
theorem offset_utf16 {text : Text} {position : Position} (h : text.WellFormed position) :
    Editor.offset (utf16 text) position =
      units (upTo text position.line position.character) := by
  obtain ⟨line, column⟩ := position
  obtain ⟨shown, hline, hcolumn⟩ := h
  rw [Editor.offset, lineStart_utf16]
  simp only at *
  induction text generalizing line with
  | nil =>
    cases line with
    | zero =>
      rw [line?_zero, Option.some.injEq] at hline
      subst hline
      simp [units_columnPrefix_iff.mpr hcolumn]
    | succ line => simp at hline
  | cons c rest ih =>
    cases line with
    | zero =>
      rw [line?_zero, Option.some.injEq] at hline
      subst hline
      simp [units_columnPrefix_iff.mpr hcolumn]
    | succ line =>
      rw [line?_cons_succ] at hline
      have := ih _ hline
      simp only [upTo_cons_succ, units_cons]
      omega

/-- The units of a text cut at the end of a prefix. -/
theorem take_utf16_append (before after : Text) :
    (utf16 (before ++ after)).take (units before) = utf16 before := by
  rw [utf16_append, ← length_utf16, List.take_left]

theorem drop_utf16_append (before after : Text) :
    (utf16 (before ++ after)).drop (units before) = utf16 after := by
  rw [utf16_append, ← length_utf16, List.drop_left]

/-- A change that fits does to the units what it does to the text. -/
theorem utf16_applyChange {text : Text} {change : Change} (h : text.Fits change) :
    utf16 (text.applyChange change) = Editor.apply (utf16 text) change := by
  obtain ⟨_ | range, inserted⟩ := change
  · rfl
  · obtain ⟨hle, hstart, hstop⟩ := h range rfl
    obtain ⟨before, middle, after, htext, hbefore, hmiddle, happly⟩ :=
      applyChange_of_le text inserted hle
    rw [happly]
    simp only [Editor.apply, offset_utf16 hstart, offset_utf16 hstop, hbefore, hmiddle]
    rw [htext, drop_utf16_append, List.append_assoc before middle, take_utf16_append, utf16_append,
      utf16_append]

/-! ## Any changes -/

/-- The editor and the text come to the same document. Each change may be of any kind, as long as
its range runs between two well-formed positions in order, of the text that it lands on. -/
theorem the_editor_and_the_text_stay_in_step (text : Text) (changes : List Change)
    (h : FitsAll text changes) :
    utf16 (text.applyChanges changes) = Editor.applyAll (utf16 text) changes := by
  induction changes generalizing text with
  | nil => rfl
  | cons change later ih =>
    obtain ⟨hfits, hlater⟩ := h
    simp only [applyChanges, Editor.applyAll, List.foldl_cons] at ih ⊢
    rw [ih _ hlater, utf16_applyChange hfits]

/-- Lines joined over a carriage return and a pair of units, a line added, a text put in whole, and
an insertion into that. -/
theorem the_editor_stays_in_step_over_lines_and_pairs :
    let text : Text := ['a', 'é', '\r', '\n', '😀', 'b', '\n', '語']
    let changes : List Change :=
      [⟨some ⟨⟨0, 2⟩, ⟨1, 2⟩⟩, ['\n', '€']⟩, ⟨some ⟨⟨2, 0⟩, ⟨2, 1⟩⟩, ['x', '😀', '\n']⟩,
        ⟨some ⟨⟨2, 3⟩, ⟨3, 0⟩⟩, []⟩, ⟨none, ['😀', '\n', 'z']⟩, ⟨some ⟨⟨0, 2⟩, ⟨1, 0⟩⟩, ['é']⟩]
    FitsAll text changes ∧ text.applyChanges changes = ['😀', 'é', 'z'] ∧
      utf16 (text.applyChanges changes) = Editor.applyAll (utf16 text) changes := by
  refine ⟨by decide, by decide, ?_⟩
  exact the_editor_and_the_text_stay_in_step _ _ (by decide)

end Text

end DelugeAssist
