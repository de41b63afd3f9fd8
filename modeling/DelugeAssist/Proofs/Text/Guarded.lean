-- Reading and editing with every cut guarded. A guarded cut is refused where its ends are out of
-- order, past the end of the text or inside a character, so a guarded run shows where a text is cut
-- on the way. No run is ever refused, and each comes to what the unguarded functions give.

import DelugeAssist.Proofs.Text.Concatenation
import DelugeAssist.Proofs.Text.Word

namespace DelugeAssist

namespace Text

namespace Guarded

/-- Why a run is refused. -/
inductive Fault where
  /-- A stretch whose ends are out of order, past the end of the text or inside a character. -/
  | misplaced (start stop : Nat)
  /-- An offset before the beginning of the text. -/
  | negative
deriving DecidableEq, Repr

/-- Both ends of a stretch lie between characters of the text, in order. -/
def Placed (text : Text) (start stop : Nat) : Prop :=
  start ≤ stop ∧ text.isBoundary start = true ∧ text.isBoundary stop = true

instance (text : Text) (start stop : Nat) : Decidable (Placed text start stop) :=
  inferInstanceAs (Decidable (_ ∧ _))

@[simp] theorem ok_bind {α β : Type} (value : α) (next : α → Except Fault β) :
    (Except.ok value >>= next) = next value := rfl

/-! ## Guarded cuts -/

/-- The text from octet `start` to octet `stop`. -/
def slice (text : Text) (start stop : Nat) : Except Fault Text :=
  if Placed text start stop then .ok (text.slice start stop) else .error (.misplaced start stop)

/-- The text with the octets from `start` to `stop` replaced. -/
def splice (text : Text) (start stop : Nat) (inserted : Text) : Except Fault Text :=
  if Placed text start stop then .ok (text.splice start stop inserted)
  else .error (.misplaced start stop)

/-! ## Guarded reading -/

/-- Where the line before the one that starts at `next` ends, at its line feed. -/
def feedBefore : Nat → Except Fault Nat
  | 0 => .error .negative
  | next + 1 => .ok next

/-- What line `i` shows, cut out of the text between two line starts. -/
def line? (text : Text) (i : Nat) : Except Fault (Option Text) :=
  match text.lineStarts[i]?, text.lineStarts[i + 1]? with
  | none, _ => .ok none
  | some start, none => do
    let piece ← slice text start text.octets
    return some (stripReturn piece)
  | some start, some next => do
    let stop ← feedBefore next
    let piece ← slice text start stop
    return some (stripReturn piece)

/-- The octet offset of a position; none for a line that the text does not have. -/
def positionToOctet? (text : Text) (position : Position) : Except Fault (Option Nat) := do
  let line? ← line? text position.line
  return do
    let start ← text.lineStarts[position.line]?
    let line ← line?
    some (start + line.columnOctet position.character)

/-- The line of a position, from its beginning up to the position. -/
def lineBefore? (text : Text) (position : Position) : Except Fault (Option Text) := do
  match ← line? text position.line with
  | none => return none
  | some line => return some (← slice line 0 (line.columnOctet position.character))

/-- The column of an octet offset, counted in what stands before it. -/
def octetToColumn? (line : Text) (n : Nat) : Except Fault (Option Nat) :=
  if line.isBoundary n then do
    let before ← slice line 0 n
    return some before.units
  else .ok none

/-- The word at a position. -/
def wordAt? (text : Text) (position : Position) : Except Fault (Option Word) := do
  match ← line? text position.line with
  | none => return none
  | some line =>
    let cursor := line.columnOctet position.character
    let left ← slice line 0 cursor
    let right ← slice line cursor line.octets
    let start := left.wordStart
    let stop := cursor + right.wordStop
    if start = stop then return none
    else
      match ← octetToColumn? line start with
      | none => return none
      | some first =>
        match ← octetToColumn? line stop with
        | none => return none
        | some last =>
          let word ← slice line start stop
          return some ⟨word, ⟨⟨position.line, first⟩, ⟨position.line, last⟩⟩⟩

/-! ## Guarded edits -/

/-- The offset that an edit takes for a position: the end of the text where the line is missing. -/
def editOffset (text : Text) (position : Position) : Except Fault Nat := do
  let offset? ← positionToOctet? text position
  return offset?.getD text.octets

/-- The text after one change. -/
def applyChange (text : Text) (change : Change) : Except Fault Text :=
  match change.range with
  | none => .ok change.text
  | some range => do
    let start ← editOffset text range.start
    let stop ← editOffset text range.stop
    splice text start (max stop start) change.text

/-- The text after all the changes, in order. -/
def applyChanges (text : Text) (changes : List Change) : Except Fault Text :=
  changes.foldlM applyChange text

/-! ## Cuts at the ends of prefixes -/

theorem placed_append (before middle after : Text) :
    Placed (before ++ middle ++ after) (octets before) (octets before + octets middle) := by
  refine ⟨Nat.le_add_right _ _, ?_, ?_⟩
  · rw [List.append_assoc]
    exact isBoundary_octets_append before (middle ++ after)
  · rw [← octets_append]
    exact isBoundary_octets_append (before ++ middle) after

theorem slice_append (before middle after : Text) :
    slice (before ++ middle ++ after) (octets before) (octets before + octets middle) =
      .ok middle := by
  rw [slice, if_pos (placed_append before middle after), Text.slice_append]

theorem slice_zero_append (before after : Text) :
    slice (before ++ after) 0 (octets before) = .ok before := by
  simpa using slice_append [] before after

theorem slice_append_octets (before after : Text) :
    slice (before ++ after) (octets before) (octets (before ++ after)) = .ok after := by
  simpa using slice_append before after []

/-! ## No cut is refused -/

/-- A line is cut out between where it starts and the feed that ends it, or the end of the text. -/
theorem line?_eq (text : Text) (i : Nat) : line? text i = .ok (text.line? i) := by
  unfold line?
  rcases Nat.lt_or_ge i text.lineCount with hi | hi
  · obtain ⟨above, piece, below, hsplit⟩ := exists_lineSplit hi
    have hcut := slice_append above piece below
    rw [← hsplit.eq_append] at hcut
    rw [hsplit.start_eq, hsplit.line?_eq]
    cases below with
    | nil =>
      have hlength : text.octets = octets above + octets piece := by
        rw [hsplit.eq_append, List.append_nil, octets_append]
      simp only [hsplit.next_eq_none, hlength, hcut, ok_bind]
      rfl
    | cons c more =>
      simp only [hsplit.next_eq_some, feedBefore, hcut, ok_bind]
      rfl
  · have hmissing : text.lineStarts[i]? = none := List.getElem?_eq_none hi
    rw [hmissing, line?_eq_none_iff.mpr hi]

theorem positionToOctet?_eq (text : Text) (position : Position) :
    positionToOctet? text position = .ok (text.positionToOctet? position) := by
  unfold positionToOctet?
  rw [line?_eq]
  rfl

/-- A position resolves to a place between two characters of its line. -/
theorem lineBefore?_eq (text : Text) (position : Position) :
    lineBefore? text position = .ok (text.lineBefore? position) := by
  unfold lineBefore?
  rw [line?_eq, Text.lineBefore?_eq]
  rcases text.line? position.line with _ | line
  · rfl
  · obtain ⟨right, hright⟩ := columnPrefix_isPrefix line position.character
    have hcut := slice_zero_append (columnPrefix line position.character) right
    rw [hright, ← columnOctet_eq] at hcut
    simp only [ok_bind, hcut]
    rfl

theorem octetToColumn?_eq (line : Text) (n : Nat) :
    octetToColumn? line n = .ok (line.octetToColumn? n) := by
  unfold octetToColumn? Text.octetToColumn?
  split
  · rename_i hn
    obtain ⟨before, ⟨after, rfl⟩, rfl⟩ := isBoundary_iff_isPrefix.mp hn
    rw [slice_zero_append, takeOctets_octets_append]
    rfl
  · rfl

/-- A word is cut out only where its start is no place inside a character. -/
theorem wordAt?_eq (text : Text) (position : Position) :
    wordAt? text position = .ok (text.wordAt? position) := by
  unfold wordAt? Text.wordAt?
  rw [line?_eq]
  rcases text.line? position.line with _ | line
  · rfl
  · obtain ⟨right, hright⟩ := columnPrefix_isPrefix line position.character
    simp only [ok_bind, Option.bind_eq_bind, Option.bind_some, columnOctet_eq]
    generalize columnPrefix line position.character = left at hright
    subst hright
    rw [slice_zero_append, slice_append_octets, takeOctets_octets_append,
      dropOctets_octets_append]
    simp only [ok_bind, octetToColumn?_eq]
    split
    · rfl
    · rcases hfirst : (left ++ right).octetToColumn? (wordStart left) with _ | first
      · rfl
      · have hstart := (octetToColumn?_wordStart hfirst).1
        have hcut := slice_append (beforeRun left) (runAt left right) (afterRun right)
        rw [runAt_split, ← wordStop_eq] at hcut
        simp only [octetToColumn?_wordStop, hstart, hcut, ok_bind, Option.bind_some, slice_runAt]
        rfl

/-! ## No edit is refused -/

theorem editOffset_eq (text : Text) (position : Position) :
    editOffset text position = .ok (text.editOffset position) := by
  unfold editOffset
  rw [positionToOctet?_eq]
  rfl

/-- The offsets of an edit stand between characters, in order, whatever its range. -/
theorem placed_edit (text : Text) (range : Range) :
    Placed text (text.editOffset range.start)
      (max (text.editOffset range.stop) (text.editOffset range.start)) := by
  obtain ⟨before, middle, after, htext, hbefore, hstop, -⟩ := applyChange_of_range text [] range
  rw [hstop, Text.editOffset_eq, hbefore, htext]
  exact placed_append before middle after

theorem applyChange_eq (text : Text) (change : Change) :
    applyChange text change = .ok (text.applyChange change) := by
  obtain ⟨_ | range, inserted⟩ := change
  · rfl
  · simp only [applyChange, editOffset_eq, ok_bind, splice, if_pos (placed_edit text range)]
    rfl

theorem applyChanges_eq (text : Text) (changes : List Change) :
    applyChanges text changes = .ok (text.applyChanges changes) := by
  unfold applyChanges
  induction changes generalizing text with
  | nil => rfl
  | cons change later ih =>
    rw [List.foldlM_cons, applyChange_eq, ok_bind, ih]
    rfl

end Guarded

/-- No run of changes is refused, and neither is reading a line, what stands before a position in
its line or the word there: each cut on the way lies between characters, in order. After any
changes, an edit gives what stands before its first offset, the inserted text, and what stands
behind its second offset, with both offsets in order, in the text and between characters. -/
theorem every_cut_lies_between_characters :
    (∀ (text : Text) (changes : List Change),
      Guarded.applyChanges text changes = .ok (text.applyChanges changes)) ∧
    (∀ (text : Text) (earlier : List Change) (range : Range) (inserted : Text),
      let current := text.applyChanges earlier
      let start := current.editOffset range.start
      let stop := max (current.editOffset range.stop) start
      start ≤ stop ∧ stop ≤ current.octets ∧
      current.isBoundary start = true ∧ current.isBoundary stop = true ∧
      text.applyChanges (earlier ++ [⟨some range, inserted⟩]) =
        current.takeOctets start ++ inserted ++ current.dropOctets stop) ∧
    (∀ (text : Text) (i : Nat), Guarded.line? text i = .ok (text.line? i)) ∧
    (∀ (text : Text) (position : Position),
      Guarded.lineBefore? text position = .ok (text.lineBefore? position) ∧
      Guarded.wordAt? text position = .ok (text.wordAt? position)) := by
  refine ⟨?_, ?_, ?_, ?_⟩
  · intro text changes
    exact Guarded.applyChanges_eq text changes
  · intro text earlier range inserted current start stop
    obtain ⟨horder, hstart, hstop⟩ := Guarded.placed_edit current range
    refine ⟨horder, le_octets_of_isBoundary hstop, hstart, hstop, ?_⟩
    rw [applyChanges_append]
    rfl
  · intro text i
    exact Guarded.line?_eq text i
  · intro text position
    exact ⟨Guarded.lineBefore?_eq text position, Guarded.wordAt?_eq text position⟩

end Text

end DelugeAssist
