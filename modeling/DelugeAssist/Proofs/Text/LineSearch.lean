-- The search for the line of an offset. A table in order is halved until one entry is left;
-- whatever a search of the table of starts answers, a start that was hit or the place of one that
-- was missed, leads to the last line that starts at or before the offset.

import DelugeAssist.Proofs.Text.LineTable

namespace DelugeAssist

/-! ## Searching a table -/

/-- What the search of a table answers: where the sought number stands, or where it would. -/
inductive Lookup where
  | hit (place : Nat)
  | miss (place : Nat)
deriving DecidableEq, Repr

namespace Lookup

/-- What a search of a table in order may answer. -/
def Fits (table : List Nat) (sought : Nat) : Lookup → Prop
  | .hit place => table[place]? = some sought
  | .miss place => place ≤ table.length ∧
    (∀ i entry, table[i]? = some entry → i < place → entry < sought) ∧
    (∀ i entry, table[i]? = some entry → place ≤ i → sought < entry)

/-- Where the half begins that the search of `size` entries from `base` on goes on with. -/
def halfFrom (table : List Nat) (sought base size : Nat) : Nat :=
  match table[base + size / 2]? with
  | some entry => if sought < entry then base else base + size / 2
  | none => base

/-- The place that halving comes down to. -/
def narrowed (table : List Nat) (sought base size : Nat) : Nat :=
  if size ≤ 1 then base
  else narrowed table sought (halfFrom table sought base size) (size - size / 2)
termination_by size
decreasing_by omega

/-- The search of a table by halving it. -/
def bisect (table : List Nat) (sought : Nat) : Lookup :=
  let place := narrowed table sought 0 table.length
  match table[place]? with
  | none => .miss place
  | some entry =>
    if entry = sought then .hit place
    else if entry < sought then .miss (place + 1)
    else .miss place

/-! ## What halving keeps -/

/-- What is left to search are `size` entries from `base` on. -/
structure Left (table : List Nat) (sought base size : Nat) : Prop where
  within : base + size ≤ table.length
  before : ∀ i entry, table[i]? = some entry → i < base → entry < sought
  behind : ∀ i entry, table[i]? = some entry → base + size ≤ i → sought < entry

theorem left_all (table : List Nat) (sought : Nat) : Left table sought 0 table.length where
  within := by omega
  before := by
    intro i entry _ hi
    omega
  behind := by
    intro i entry hentry hi
    rw [List.getElem?_eq_none (by omega)] at hentry
    cases hentry

section Ordered

variable {table : List Nat} {sought base size : Nat} (hordered : table.Pairwise (· < ·))
include hordered

theorem lt_of_entries {i j first second : Nat} (hfirst : table[i]? = some first)
    (hsecond : table[j]? = some second) (h : i < j) : first < second := by
  obtain ⟨hi, rfl⟩ := List.getElem?_eq_some_iff.mp hfirst
  obtain ⟨hj, rfl⟩ := List.getElem?_eq_some_iff.mp hsecond
  exact List.pairwise_iff_getElem.mp hordered i j hi hj h

theorem le_of_entries {i j first second : Nat} (hfirst : table[i]? = some first)
    (hsecond : table[j]? = some second) (h : i ≤ j) : first ≤ second := by
  rcases Nat.eq_or_lt_of_le h with rfl | hlt
  · exact (Option.some.inj (hfirst.symm.trans hsecond)).le
  · exact (lt_of_entries hordered hfirst hsecond hlt).le

/-- What the search goes on with holds all that is left. -/
theorem Left.half (h : Left table sought base size) (hsize : 1 < size) :
    Left table sought (halfFrom table sought base size) (size - size / 2) := by
  have hwithin := h.within
  obtain ⟨middle, hmiddle⟩ : ∃ middle, table[base + size / 2]? = some middle :=
    ⟨_, List.getElem?_eq_getElem (by omega)⟩
  unfold halfFrom
  rw [hmiddle]
  dsimp only
  split
  · rename_i hover
    refine ⟨by omega, h.before, ?_⟩
    intro i entry hentry hi
    exact hover.trans_le (le_of_entries hordered hmiddle hentry (by omega))
  · rename_i hreached
    refine ⟨by omega, ?_, ?_⟩
    · intro i entry hentry hi
      exact (lt_of_entries hordered hentry hmiddle hi).trans_le (Nat.not_lt.mp hreached)
    · intro i entry hentry hi
      exact h.behind i entry hentry (by omega)

theorem Left.narrowed (h : Left table sought base size) :
    ∃ last ≤ 1, Left table sought (narrowed table sought base size) last := by
  fun_induction Lookup.narrowed table sought base size with
  | case1 base size hsize => exact ⟨size, hsize, h⟩
  | case2 base size hsize ih => exact ih (h.half hordered (by omega))

theorem fits_bisect (sought : Nat) : (bisect table sought).Fits table sought := by
  obtain ⟨last, hlast, hleft⟩ := (left_all table sought).narrowed hordered
  unfold bisect
  generalize Lookup.narrowed table sought 0 table.length = place at hleft
  have hwithin := hleft.within
  dsimp only
  split
  · rename_i hnone
    have hend := List.getElem?_eq_none_iff.mp hnone
    refine ⟨by omega, hleft.before, ?_⟩
    intro i entry hentry hi
    exact hleft.behind i entry hentry (by omega)
  · rename_i found hfound
    obtain ⟨hplace, -⟩ := List.getElem?_eq_some_iff.mp hfound
    split
    · rename_i heq
      exact hfound.trans (congrArg some heq)
    · rename_i hne
      split
      · rename_i hlt
        refine ⟨hplace, ?_, ?_⟩
        · intro i entry hentry hi
          exact (le_of_entries hordered hentry hfound (by omega)).trans_lt hlt
        · intro i entry hentry hi
          exact hleft.behind i entry hentry (by omega)
      · rename_i hge
        refine ⟨by omega, hleft.before, ?_⟩
        intro i entry hentry hi
        have hover : sought < found := by omega
        exact hover.trans_le (le_of_entries hordered hfound hentry hi)

end Ordered

end Lookup

/-! ## The line of an offset -/

/-- The last entry of a table at or before a bound stands at the place. -/
def LastUpTo (table : List Nat) (bound place : Nat) : Prop :=
  ∃ entry, table[place]? = some entry ∧ entry ≤ bound ∧
    ∀ next, table[place + 1]? = some next → bound < next

/-- The line that an answer leads to: that of a start that was hit, else the one before the place.
-/
def Lookup.line : Lookup → Nat
  | .hit place => place
  | .miss place => place - 1

/-- A table in order is at or before the bound up to the last such entry and no further. -/
theorem LastUpTo.length_takeWhile {table : List Nat} {bound place : Nat}
    (hordered : table.Pairwise (· < ·)) (h : LastUpTo table bound place) :
    (table.takeWhile (· ≤ bound)).length = place + 1 := by
  obtain ⟨entry, hentry, hle, hnext⟩ := h
  have hin : ∀ other ∈ table.take (place + 1), decide (other ≤ bound) = true := by
    intro other hother
    obtain ⟨i, hi, rfl⟩ := List.mem_take_iff_getElem.mp hother
    have hother := List.getElem?_eq_getElem (l := table) (show i < table.length by omega)
    exact decide_eq_true ((Lookup.le_of_entries hordered hother hentry (by omega)).trans hle)
  have hout : (table.drop (place + 1)).takeWhile (· ≤ bound) = [] := by
    rcases hrest : table.drop (place + 1) with _ | ⟨next, more⟩
    · rfl
    · have hfirst : table[place + 1]? = some next := by
        rw [← List.head?_drop, hrest, List.head?_cons]
      have := hnext next hfirst
      exact List.takeWhile_cons_of_neg (by simpa using this)
  have hcut : (table.take (place + 1) ++ table.drop (place + 1)).takeWhile (· ≤ bound) =
      table.take (place + 1) := by
    rw [List.takeWhile_append_of_pos hin, hout, List.append_nil]
  obtain ⟨hplace, -⟩ := List.getElem?_eq_some_iff.mp hentry
  rw [List.take_append_drop] at hcut
  rw [hcut, List.length_take]
  omega

namespace Text

/-- Whatever a search of the starts answers leads to the last line at or before the offset. -/
theorem lastUpTo_of_fits {text : Text} {offset : Nat} {answer : Lookup}
    (h : answer.Fits text.lineStarts offset) : LastUpTo text.lineStarts offset answer.line := by
  cases answer with
  | hit place =>
    refine ⟨offset, h, Nat.le_refl _, ?_⟩
    intro next hnext
    exact Lookup.lt_of_entries (pairwise_lineStarts text) h hnext (Nat.lt_succ_self place)
  | miss place =>
    obtain ⟨hplace, hbefore, hbehind⟩ := h
    -- The first line starts at 0, so no offset belongs before it.
    rcases place with _ | place
    · exact absurd (hbehind 0 0 rfl (Nat.le_refl _)) (Nat.not_lt_zero _)
    · have hstart := List.getElem?_eq_getElem (l := text.lineStarts) (show place < _ by omega)
      refine ⟨_, hstart, (hbefore place _ hstart (Nat.lt_succ_self place)).le, ?_⟩
      intro next hnext
      exact hbehind (place + 1) next hnext (Nat.le_refl _)

theorem lineAt_of_lastUpTo {text : Text} {offset line : Nat}
    (h : LastUpTo text.lineStarts offset line) : text.lineAt offset = line := by
  rw [lineAt, h.length_takeWhile (pairwise_lineStarts text), Nat.add_sub_cancel]

theorem line_of_octetToPosition? {text : Text} {offset : Nat} {position : Position}
    (h : text.octetToPosition? offset = some position) : position.line = text.lineAt offset := by
  unfold octetToPosition? at h
  split at h
  · cases h
  · simp only [Option.bind_eq_bind, Option.bind_eq_some_iff, Option.some.injEq] at h
    obtain ⟨_, _, _, _, _, _, rfl⟩ := h
    rfl

/-- The table of the places where lines start is in order and begins with 0, and it has one entry
more than the text has line feeds. Behind the beginning it lists just the places behind an octet
that is a line feed, and all its entries lie between characters. Of two texts put together it is the
table of the first, and then that of the second without its beginning, further on by the length of
the first. So a search of the table for an offset, by halving it or otherwise, answers what leads to
the last line that starts at or before the offset, and the position of the offset is on that line.
-/
theorem the_table_of_starts_leads_to_the_line_of_an_offset (text : Text) :
    text.lineStarts.Pairwise (· < ·) ∧ text.lineStarts.head? = some 0 ∧
    text.lineStarts.length = text.count '\n' + 1 ∧
    (∀ start, 0 < start → (start ∈ text.lineStarts ↔
      start ≤ octets text ∧ (Utf8.encode text)[start - 1]? = some 0x0A)) ∧
    (∀ start ∈ text.lineStarts, text.isBoundary start = true) ∧
    (∀ later, lineStarts (text ++ later) =
      lineStarts text ++ (lineStarts later).tail.map (octets text + ·)) ∧
    (∀ offset, (Lookup.bisect text.lineStarts offset).Fits text.lineStarts offset ∧
      ∀ answer : Lookup, answer.Fits text.lineStarts offset →
        LastUpTo text.lineStarts offset answer.line ∧ answer.line < text.lineCount ∧
        text.lineAt offset = answer.line ∧
        ∀ position, text.octetToPosition? offset = some position →
          position.line = answer.line) := by
  refine ⟨pairwise_lineStarts text, rfl, lineCount_eq text, ?_, ?_, lineStarts_append text, ?_⟩
  · intro start hstart
    exact mem_lineStarts_iff_octet hstart
  · intro start hstart
    exact isBoundary_of_mem_lineStarts hstart
  · intro offset
    refine ⟨Lookup.fits_bisect (pairwise_lineStarts text) offset, ?_⟩
    intro answer h
    have hlast := lastUpTo_of_fits h
    have hline := lineAt_of_lastUpTo hlast
    obtain ⟨start, hstart, -⟩ := id hlast
    obtain ⟨hcount, -⟩ := List.getElem?_eq_some_iff.mp hstart
    refine ⟨hlast, hcount, hline, ?_⟩
    intro position hposition
    rw [line_of_octetToPosition? hposition, hline]

/-- A text with a break of two characters and a pair at its end: a start that is hit, an offset
inside a break, the end of the text, and another text behind it. -/
theorem starts_past_a_break_of_two_lead_to_their_lines :
    let text : Text := ['a', 'é', '\n', 'b', '\r', '\n', '😀']
    text.lineStarts = [0, 4, 7] ∧ 7 ∈ text.lineStarts ∧ 7 ≤ octets text ∧
    (Utf8.encode text)[7 - 1]? = some 0x0A ∧ text.isBoundary 7 = true ∧
    lineStarts (text ++ ['c', '\n']) = [0, 4, 7] ++ [11 + 2] ∧
    Lookup.bisect text.lineStarts 4 = .hit 1 ∧ text.lineAt 4 = 1 ∧
    Lookup.bisect text.lineStarts 6 = .miss 2 ∧ (Lookup.miss 2).Fits text.lineStarts 6 ∧
    LastUpTo text.lineStarts 6 1 ∧ text.lineAt 6 = 1 ∧ text.octetToPosition? 6 = some ⟨1, 1⟩ ∧
    Lookup.bisect text.lineStarts 11 = .miss 3 ∧ text.lineAt 11 = 2 := by
  intro text
  obtain ⟨-, -, -, hlisted, hboundary, happend, hsearch⟩ :=
    the_table_of_starts_leads_to_the_line_of_an_offset text
  have hstarts : text.lineStarts = [0, 4, 7] := by decide
  have hseven : 7 ∈ text.lineStarts := by rw [hstarts]; decide
  obtain ⟨hwithin, hoctet⟩ := (hlisted 7 (by decide)).mp hseven
  have hhit : Lookup.bisect text.lineStarts 4 = .hit 1 := by
    simp [hstarts, Lookup.bisect, Lookup.narrowed, Lookup.halfFrom]
  have hmiss : Lookup.bisect text.lineStarts 6 = .miss 2 := by
    simp [hstarts, Lookup.bisect, Lookup.narrowed, Lookup.halfFrom]
  have hend : Lookup.bisect text.lineStarts 11 = .miss 3 := by
    simp [hstarts, Lookup.bisect, Lookup.narrowed, Lookup.halfFrom]
  have hfits := (hsearch 6).1
  rw [hmiss] at hfits
  obtain ⟨hlast, -, hline, -⟩ := (hsearch 6).2 (.miss 2) hfits
  refine ⟨hstarts, hseven, hwithin, hoctet, hboundary 7 hseven, ?_, hhit, ?_, hmiss, hfits, hlast,
    hline, by decide +kernel, hend, ?_⟩
  · rw [happend, hstarts]
    decide
  · exact ((hsearch 4).2 (.hit 1) (hhit ▸ (hsearch 4).1)).2.2.1
  · exact ((hsearch 11).2 (.miss 3) (hend ▸ (hsearch 11).1)).2.2.1

end Text

end DelugeAssist
