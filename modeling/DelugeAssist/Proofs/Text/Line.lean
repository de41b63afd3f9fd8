-- The lines of a text and where they start, character by character: behind its first character a
-- text has the lines of the rest, one further on after a line feed.

import DelugeAssist.Proofs.Text.Prefix
import DelugeAssist.Text.Line

namespace DelugeAssist

namespace Text

/-- What the first line of a text shows. -/
def firstLine (text : Text) : Text := stripReturn (text.takeWhile (· ≠ '\n'))

/-- The line that line `i + 1` of a text is, counted behind its first character `c`. -/
def lineBehind (c : Char) (i : Nat) : Nat := if c = '\n' then i else i + 1

theorem stripReturn_isPrefix (piece : Text) : stripReturn piece <+: piece := by
  unfold stripReturn
  split
  · exact List.dropLast_prefix piece
  · exact List.prefix_refl piece

theorem firstLine_isPrefix (text : Text) : firstLine text <+: text :=
  (stripReturn_isPrefix _).trans (List.takeWhile_prefix _)

/-! ## The pieces -/

/-- The pieces are the text split at its feeds. -/
theorem pieces_eq_splitOn (text : Text) : text.pieces = text.splitOn '\n' := by
  induction text with
  | nil => rfl
  | cons c rest ih =>
    rw [pieces, List.splitOn_cons_eq_if_modifyHead, ih]
    by_cases hc : c = '\n'
    · simp [hc]
    · obtain ⟨piece, more, hp⟩ := List.exists_cons_of_ne_nil (List.splitOn_ne_nil '\n' rest)
      simp [hc, hp]

theorem pieces_zero (text : Text) : (pieces text)[0]? = some (text.takeWhile (· ≠ '\n')) := by
  induction text with
  | nil => rfl
  | cons c rest ih =>
    unfold pieces
    by_cases hc : c = '\n'
    · simp [hc]
    · obtain ⟨piece, more, hp⟩ := List.exists_cons_of_ne_nil (pieces_ne_nil rest)
      simp only [hp, List.getElem?_cons_zero, Option.some.injEq] at ih
      simp [hc, hp, ih]

theorem pieces_cons_succ (c : Char) (rest : Text) (i : Nat) :
    (pieces (c :: rest))[i + 1]? = (pieces rest)[lineBehind c i]? := by
  unfold lineBehind
  rw [pieces]
  by_cases hc : c = '\n'
  · simp [hc]
  · obtain ⟨piece, more, hp⟩ := List.exists_cons_of_ne_nil (pieces_ne_nil rest)
    simp [hc, hp]

@[simp] theorem line?_zero (text : Text) : text.line? 0 = some (firstLine text) := by
  simp [line?, pieces_zero, firstLine]

@[simp] theorem line?_nil_succ (i : Nat) : line? [] (i + 1) = none := by
  simp [line?, pieces]

@[simp] theorem line?_cons_succ (c : Char) (rest : Text) (i : Nat) :
    line? (c :: rest) (i + 1) = line? rest (lineBehind c i) := by
  simp only [line?, pieces_cons_succ]

/-! ## The starts -/

theorem startsAfter_add (k n : Nat) (text : Text) :
    startsAfter (k + n) text = (startsAfter n text).map (k + ·) := by
  induction text generalizing n with
  | nil => rfl
  | cons c rest ih =>
    simp only [startsAfter, Nat.add_assoc, ih]
    split <;> simp

theorem startsAfter_eq (n : Nat) (text : Text) :
    startsAfter n text = (startsAfter 0 text).map (n + ·) := startsAfter_add n 0 text

@[simp] theorem lineStarts_zero (text : Text) : text.lineStarts[0]? = some 0 := rfl

@[simp] theorem lineStarts_nil_succ (i : Nat) : (lineStarts [])[i + 1]? = none := by
  simp [lineStarts, startsAfter]

@[simp] theorem lineStarts_cons_succ (c : Char) (rest : Text) (i : Nat) :
    (lineStarts (c :: rest))[i + 1]? =
      (lineStarts rest)[lineBehind c i]?.map (c.utf8Size + ·) := by
  simp only [lineStarts, lineBehind, startsAfter, Nat.zero_add]
  rw [startsAfter_eq c.utf8Size rest]
  by_cases hc : c = '\n'
  · cases i with
    | zero => simp [hc]
    | succ i => simp [hc]
  · simp [hc]

/-- A line stands in its text, from the place where it starts. -/
theorem line?_split {text line : Text} {i : Nat} (h : text.line? i = some line) :
    ∃ before after, text = before ++ line ++ after ∧
      text.lineStarts[i]? = some (octets before) := by
  induction text generalizing i with
  | nil =>
    cases i with
    | zero =>
      simp only [line?_zero, Option.some.injEq] at h
      subst h
      exact ⟨[], [], rfl, rfl⟩
    | succ i => simp at h
  | cons c rest ih =>
    cases i with
    | zero =>
      simp only [line?_zero, Option.some.injEq] at h
      obtain ⟨after, hafter⟩ := firstLine_isPrefix (c :: rest)
      exact ⟨[], after, by rw [← h, List.nil_append, hafter], rfl⟩
    | succ i =>
      rw [line?_cons_succ] at h
      obtain ⟨before, after, hsplit, hstart⟩ := ih h
      refine ⟨c :: before, after, by rw [hsplit]; rfl, ?_⟩
      rw [lineStarts_cons_succ, hstart]
      rfl

end Text

end DelugeAssist
