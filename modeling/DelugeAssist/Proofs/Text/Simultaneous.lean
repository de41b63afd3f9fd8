-- Edits of many places at once. An editor with many cursors sends its edits from the last place to
-- the first, each read against the text that the ones before it left. In a text with whole line
-- breaks this comes to replacing all the stretches at once.

import DelugeAssist.Proofs.Text.Place
import DelugeAssist.Proofs.Text.Returns
import Mathlib.Data.List.Chain

namespace DelugeAssist

/-- A change that names its range. -/
structure Edit where
  range : Range
  text : Text
deriving DecidableEq, Repr

def Edit.change (edit : Edit) : Change := ⟨some edit.range, edit.text⟩

/-- A stretch of octets with the text that comes in its place. -/
structure Patch where
  start : Nat
  stop : Nat
  text : Text
deriving DecidableEq, Repr

namespace Text

/-- The stretch that an edit names in a text. -/
def patchOf (text : Text) (edit : Edit) : Patch :=
  ⟨text.editOffset edit.range.start, text.editOffset edit.range.stop, edit.text⟩

/-- What stands before the octet `limit` once the stretches are replaced: the untouched gaps of the
text and the new texts in turn, from the last one back to the beginning. -/
def layout (text : Text) (limit : Nat) : List Patch → List Text
  | [] => [text.slice 0 limit]
  | patch :: earlier => text.slice patch.stop limit :: patch.text :: layout text patch.start earlier

/-- The text with all the stretches replaced at once. The last stretch comes first. -/
def patched (text : Text) (patches : List Patch) : Text :=
  (layout text text.octets patches).reverse.flatten

/-! ## Positions that hold -/

/-- A settled position keeps its place whatever comes to stand behind it. -/
theorem upTo_append_of_settled {text : Text} {position : Position} (hreturns : text.PairedReturns)
    (hsettled : text.Settled position) (behind : Text) :
    upTo (upTo text position.line position.character ++ behind) position.line position.character =
      upTo text position.line position.character := by
  obtain ⟨above, piece, below, hsplit, hcolumn⟩ := exists_of_settled hsettled
  have hpaired : PairedReturns (above ++ (piece ++ below)) := by
    rwa [← List.append_assoc, ← hsplit.eq_append]
  have hreturn : '\r' ∉ stripReturn piece :=
    return_notMem_stripReturn (pairedReturns_of_append hpaired) hsplit.feedless
  have hfeed : '\n' ∉ columnPrefix (stripReturn piece) position.character :=
    feed_notMem_columnPrefix hsplit.feedless _
  have hplain : '\r' ∉ columnPrefix (stripReturn piece) position.character :=
    fun hmem => hreturn ((columnPrefix_isPrefix _ _).subset hmem)
  rw [hsplit.upTo_eq]
  generalize columnPrefix (stripReturn piece) position.character = part at *
  have hup := upTo_above hsplit.endsLine (part ++ behind) 0 position.character
  rw [Nat.add_zero, hsplit.count_above, ← List.append_assoc, upTo_zero,
    firstLine_append_of_plain hfeed hplain, ← hcolumn, columnPrefix_units_append] at hup
  rw [← hcolumn]
  exact hup

/-! ## Edits from the last to the first -/

/-- The edit runs between two settled positions of the text, in order. -/
def Names (text : Text) (edit : Edit) : Prop :=
  edit.range.start ≤ edit.range.stop ∧
    text.Settled edit.range.start ∧ text.Settled edit.range.stop

instance (text : Text) (edit : Edit) : Decidable (text.Names edit) :=
  inferInstanceAs (Decidable (_ ∧ _))

/-- As long as the text is untouched up to the end of its range, an edit finds the stretch that it
names in the untouched text. -/
theorem applyChange_of_names {text : Text} {edit : Edit} (hreturns : text.PairedReturns)
    (hnames : text.Names edit) (gap behind : Text) :
    (upTo text edit.range.stop.line edit.range.stop.character ++ gap ++ behind).applyChange
        edit.change =
      upTo text edit.range.start.line edit.range.start.character ++
        (edit.text ++ gap ++ behind) := by
  obtain ⟨horder, hstart, hstop⟩ := hnames
  obtain ⟨middle, hmiddle⟩ := upTo_mono text horder
  obtain ⟨before, within, after, hsplit, hbefore, hwithin, happly⟩ :=
    applyChange_of_le (upTo text edit.range.stop.line edit.range.stop.character ++ gap ++ behind)
      edit.text horder
  rw [List.append_assoc, upTo_append_of_settled hreturns hstop] at hwithin
  rw [← hmiddle, List.append_assoc, List.append_assoc,
    upTo_append_of_settled hreturns hstart] at hbefore
  have hafter : after = gap ++ behind := by
    rw [← hwithin, List.append_assoc] at hsplit
    exact (List.append_cancel_left hsplit).symm
  rw [Edit.change, happly, ← hbefore, hafter]
  simp only [List.append_assoc]

theorem slice_of_isPrefix (before : Text) {text gap : Text} (h : before ++ gap <+: text) :
    text.slice (octets before) (octets (before ++ gap)) = gap := by
  obtain ⟨after, rfl⟩ := h
  rw [octets_append]
  exact slice_append before gap after

/-- Edits from the last to the first, none reaching past a prefix of the text, come to the layout of
their stretches in that prefix. -/
theorem applyChanges_of_names {text : Text} {edits : List Edit} (hreturns : text.PairedReturns)
    (hnames : ∀ edit ∈ edits, text.Names edit)
    (hapart : edits.IsChain fun later earlier => earlier.range.stop ≤ later.range.start)
    {before : Text} (hbefore : before <+: text)
    (hinside : ∀ edit ∈ edits.head?,
      upTo text edit.range.stop.line edit.range.stop.character <+: before) (behind : Text) :
    (before ++ behind).applyChanges (edits.map Edit.change) =
      (layout text (octets before) (edits.map text.patchOf)).reverse.flatten ++ behind := by
  induction edits generalizing before behind with
  | nil =>
    have hall : text.slice 0 (octets before) = before := slice_of_isPrefix [] hbefore
    simp [applyChanges, layout, hall]
  | cons edit rest ih =>
    obtain ⟨gap, hgap⟩ := hinside edit rfl
    have hedit := hnames edit (by simp)
    have hstep := applyChange_of_names hreturns hedit gap behind
    have hrest := ih (fun other hother => hnames other (by simp [hother])) hapart.tail
      (upTo_isPrefix text edit.range.start.line edit.range.start.character)
      (fun other hother => upTo_mono text ((List.isChain_cons.mp hapart).1 other hother))
      (edit.text ++ gap ++ behind)
    have hcut : text.slice (text.patchOf edit).stop (octets before) = gap := by
      rw [← hgap] at hbefore ⊢
      simpa only [patchOf, editOffset_eq] using slice_of_isPrefix _ hbefore
    rw [hgap] at hstep
    simp only [applyChanges, List.map_cons, List.foldl_cons] at hrest ⊢
    rw [hstep, hrest, layout, hcut]
    simp [patchOf, editOffset_eq]

/-- Edits sent from the last to the first, each between settled positions of the text as it was at
the outset and none reaching past the start of the one before, replace all their stretches at once,
whatever texts they insert. Each carriage return of the text at the outset stands right before a
line feed. -/
theorem edits_from_the_last_to_the_first_act_at_once (text : Text) (edits : List Edit)
    (hreturns : text.PairedReturns) (hnames : ∀ edit ∈ edits, text.Names edit)
    (hapart : edits.IsChain fun later earlier => earlier.range.stop ≤ later.range.start) :
    text.applyChanges (edits.map Edit.change) = text.patched (edits.map text.patchOf) := by
  have hrun := applyChanges_of_names hreturns hnames hapart (List.prefix_refl text)
    (fun edit _ => upTo_isPrefix text edit.range.stop.line edit.range.stop.character) []
  rwa [List.append_nil, List.append_nil] at hrun

/-- A deletion over a line break, two insertions at one place on the line before it, and a line
break put in place of a character and the break behind it. -/
theorem edits_over_breaks_act_at_once :
    let text : Text := ['a', 'é', '\r', '\n', '😀', 'b', '\r', '\n', 'c']
    let edits : List Edit :=
      [⟨⟨⟨1, 3⟩, ⟨2, 0⟩⟩, []⟩, ⟨⟨⟨1, 2⟩, ⟨1, 2⟩⟩, ['x']⟩, ⟨⟨⟨1, 2⟩, ⟨1, 2⟩⟩, ['y']⟩,
        ⟨⟨⟨0, 1⟩, ⟨1, 0⟩⟩, ['\r', '\n']⟩]
    text.PairedReturns ∧ (∀ edit ∈ edits, text.Names edit) ∧
      edits.IsChain (fun later earlier => earlier.range.stop ≤ later.range.start) ∧
      text.applyChanges (edits.map Edit.change) = text.patched (edits.map text.patchOf) ∧
      text.patched (edits.map text.patchOf) =
        ['a', '\r', '\n', '😀', 'y', 'x', 'b', 'c'] := by
  intro text edits
  have hreturns : text.PairedReturns := by decide
  have hnames : ∀ edit ∈ edits, text.Names edit := by decide
  have hapart : edits.IsChain fun later earlier => earlier.range.stop ≤ later.range.start := by
    decide
  refine ⟨hreturns, hnames, hapart, ?_, by decide⟩
  exact edits_from_the_last_to_the_first_act_at_once text edits hreturns hnames hapart

end Text

end DelugeAssist
