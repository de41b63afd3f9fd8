-- Texts with whole line breaks: each carriage return stands right before a line feed. In such a
-- text no line shows a carriage return, so what a line shows is not cut short when other text comes
-- to stand behind a part of it.

import DelugeAssist.Proofs.Text.Concatenation

namespace DelugeAssist

namespace Text

/-- Each carriage return is followed by a line feed. -/
def PairedReturns : Text → Prop
  | [] => True
  | c :: rest => (c = '\r' → rest.head? = some '\n') ∧ PairedReturns rest

instance decidePairedReturns : (text : Text) → Decidable (PairedReturns text)
  | [] => isTrue trivial
  | c :: rest =>
    have := decidePairedReturns rest
    inferInstanceAs (Decidable ((c = '\r' → rest.head? = some '\n') ∧ PairedReturns rest))

theorem pairedReturns_cons (c : Char) (rest : Text) :
    PairedReturns (c :: rest) ↔ (c = '\r' → rest.head? = some '\n') ∧ PairedReturns rest := Iff.rfl

theorem pairedReturns_of_append {first later : Text} (h : PairedReturns (first ++ later)) :
    PairedReturns later := by
  induction first with
  | nil => exact h
  | cons c rest ih => exact ih h.2

/-- No return ends the text, for it would lack its feed. -/
theorem PairedReturns.getLast?_ne {text : Text} (h : PairedReturns text) :
    text.getLast? ≠ some '\r' := by
  intro hlast
  obtain ⟨earlier, rfl⟩ := List.getLast?_eq_some_iff.mp hlast
  have hnext := (pairedReturns_of_append h).1 rfl
  cases hnext

/-- A text cut behind another character than a return keeps its returns paired just if both parts
do. -/
theorem pairedReturns_append_iff {first later : Text} (hcut : first.getLast? ≠ some '\r') :
    PairedReturns (first ++ later) ↔ PairedReturns first ∧ PairedReturns later := by
  induction first with
  | nil => simp [PairedReturns]
  | cons c rest ih =>
    cases rest with
    | nil =>
      have hc : c ≠ '\r' := by simpa using hcut
      simp [PairedReturns, hc]
    | cons d more =>
      rw [List.getLast?_cons_cons] at hcut
      rw [List.cons_append, pairedReturns_cons, pairedReturns_cons c (d :: more), ih hcut,
        and_assoc]
      rfl

theorem pairedReturns_append {first later : Text} (hfirst : PairedReturns first)
    (hlater : PairedReturns later) : PairedReturns (first ++ later) :=
  (pairedReturns_append_iff hfirst.getLast?_ne).mpr ⟨hfirst, hlater⟩

theorem stripReturn_cons {c : Char} (hc : c ≠ '\r') (piece : Text) :
    stripReturn (c :: piece) = c :: stripReturn piece := by
  cases piece with
  | nil => simp [stripReturn, hc]
  | cons d more =>
    unfold stripReturn
    rw [List.getLast?_cons_cons, List.dropLast_cons_cons]
    split <;> rfl

/-- A piece without feeds ends at its first carriage return, so no return is left in what it
shows. -/
theorem return_notMem_stripReturn {piece below : Text} (h : PairedReturns (piece ++ below))
    (hpiece : '\n' ∉ piece) : '\r' ∉ stripReturn piece := by
  induction piece with
  | nil => simp [stripReturn]
  | cons c more ih =>
    obtain ⟨hnext, hmore⟩ := h
    simp only [List.mem_cons, not_or] at hpiece
    by_cases hc : c = '\r'
    · cases more with
      | nil => simp [stripReturn, hc]
      | cons d rest =>
        have hd : d = '\n' := by simpa using hnext hc
        exact absurd (by simp [hd]) hpiece.2
    · rw [stripReturn_cons hc]
      simp only [List.mem_cons, not_or]
      exact ⟨fun h => hc h.symm, ih hmore hpiece.2⟩

/-- A part of a line without feeds and returns stays at the head of its line, whatever comes to
stand behind it. -/
theorem firstLine_append_of_plain {part : Text} (hfeed : '\n' ∉ part) (hreturn : '\r' ∉ part)
    (behind : Text) : firstLine (part ++ behind) = part ++ firstLine behind := by
  induction part with
  | nil => rfl
  | cons c rest ih =>
    simp only [List.mem_cons, not_or] at hfeed hreturn
    have hcons : firstLine (c :: (rest ++ behind)) = c :: firstLine (rest ++ behind) := by
      unfold firstLine
      rw [List.takeWhile_cons_of_pos (by simpa using Ne.symm hfeed.1),
        stripReturn_cons (Ne.symm hreturn.1)]
    rw [List.cons_append, hcons, ih hfeed.2 hreturn.2, List.cons_append]

end Text

end DelugeAssist
