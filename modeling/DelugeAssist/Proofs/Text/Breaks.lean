-- What the lines of a text show, together with the breaks between them, is the whole text, but for
-- one carriage return: the last line has no break, and a return at its end is not shown either.

import DelugeAssist.Proofs.Text.Concatenation

namespace DelugeAssist

namespace Text

/-- The break that ends the octets of a line: a feed, with the return right before it if there is
one. -/
def breakOf (whole : Text) : Text := if ['\r', '\n'] <:+ whole then ['\r', '\n'] else ['\n']

/-- The break behind line `i`; the last line has none. -/
def lineBreak (text : Text) (i : Nat) : Text :=
  match text.lineStarts[i]?, text.lineStarts[i + 1]? with
  | some start, some next => breakOf (text.slice start next)
  | _, _ => []

/-- The first `n` lines, each with its break behind it. -/
def rejoined (text : Text) (n : Nat) : Text :=
  (List.range n).flatMap fun i => (text.line? i).getD [] ++ text.lineBreak i

/-- The carriage return that ends a text, if one does. -/
def lastReturn (text : Text) : Text := if text.getLast? = some '\r' then ['\r'] else []

/-- Some position stands for the offset. -/
def Reaches (text : Text) (offset : Nat) : Prop :=
  ∃ position, text.positionToOctet? position = some offset

/-! ## What a line shows of its piece -/

theorem stripReturn_append_lastReturn (piece : Text) :
    stripReturn piece ++ lastReturn piece = piece := by
  unfold stripReturn lastReturn
  split
  · rename_i hlast
    obtain ⟨earlier, rfl⟩ := List.getLast?_eq_some_iff.mp hlast
    simp
  · simp

theorem octets_lastReturn_le (piece : Text) : octets (lastReturn piece) ≤ 1 := by
  unfold lastReturn
  split <;> decide

/-- What a piece does not show of the octets of its line is the break behind it. -/
theorem breakOf_feed (piece : Text) : breakOf (piece ++ ['\n']) = lastReturn piece ++ ['\n'] := by
  have hsuffix : ['\r', '\n'] <:+ piece ++ ['\n'] ↔ piece.getLast? = some '\r' := by
    have hends : ['\r'] ++ ['\n'] <:+ piece ++ ['\n'] ↔ ['\r'] <:+ piece ∧ ['\n'] = ['\n'] :=
      List.suffix_append_inj_of_length_eq rfl
    rwa [and_iff_left rfl, List.singleton_suffix_iff_getLast?_eq_some] at hends
  unfold breakOf lastReturn
  simp only [hsuffix]
  split <;> rfl

/-- A part of a piece is shown whole unless it is all of the piece and ends in a return. -/
theorem isPrefix_stripReturn_iff {shown behind : Text} :
    shown <+: stripReturn (shown ++ behind) ↔
      ¬ (shown.getLast? = some '\r' ∧ behind = []) := by
  by_cases hbehind : behind = []
  · subst hbehind
    rw [List.append_nil, and_iff_left rfl]
    constructor
    · intro hprefix hlast
      have hlength := congrArg List.length (stripReturn_append_lastReturn shown)
      rw [lastReturn, if_pos hlast, List.length_append, List.length_singleton] at hlength
      have := hprefix.length_le
      omega
    · intro hlast
      exact ⟨[], by rw [List.append_nil, stripReturn, if_neg hlast]⟩
  · simp only [hbehind, and_false, not_false_eq_true, iff_true]
    unfold stripReturn
    split
    · rw [List.dropLast_append_of_ne_nil hbehind]
      exact List.prefix_append _ _
    · exact List.prefix_append _ _

/-! ## Lines that a feed ends, and the last line -/

theorem endsLine_nil : EndsLine [] := by simp [EndsLine]

/-- Whole lines above a piece do not end in a return. -/
theorem EndsLine.getLast?_append_return {above : Text} (h : above.EndsLine) (piece : Text) :
    (above ++ piece).getLast? = some '\r' ↔ piece.getLast? = some '\r' := by
  have habove : above.getLast? ≠ some '\r' := by
    intro hreturn
    cases h '\r' hreturn
  rw [List.getLast?_append]
  rcases piece.getLast? with _ | c
  · simpa using habove
  · rfl

namespace LineSplit

variable {text above piece below : Text} {i : Nat}

theorem slice_eq {c : Char} (h : LineSplit text i above piece (c :: below)) :
    text.slice (octets above) (octets above + octets piece + 1) = piece ++ ['\n'] := by
  obtain rfl : c = '\n' := h.opens c rfl
  have hslice := slice_append above (piece ++ ['\n']) below
  rwa [octets_append, ← Nat.add_assoc, List.append_assoc, List.append_assoc, List.singleton_append,
    ← List.append_assoc, ← h.eq_append] at hslice

theorem dropOctets_eq (h : LineSplit text i above piece below) :
    text.dropOctets (octets above) = piece ++ below := by
  rw [h.eq_append, List.append_assoc, dropOctets_octets_append]

/-- The last line is the one that nothing comes behind. -/
theorem below_eq_nil_iff (h : LineSplit text i above piece below) :
    below = [] ↔ i + 1 = text.lineCount := by
  rw [lineCount_eq, h.eq_append, List.count_append, List.count_append, h.count_above,
    h.count_piece]
  constructor
  · rintro rfl
    rfl
  · intro hlast
    rcases below with _ | ⟨c, more⟩
    · rfl
    · obtain rfl : c = '\n' := h.opens c rfl
      simp at hlast

/-- A return at the end of the last line is one at the end of the text. -/
theorem lastReturn_eq (h : LineSplit text i above piece []) :
    lastReturn piece = text.lastReturn := by
  have hlast := h.endsLine.getLast?_append_return piece
  rw [← List.append_nil (above ++ piece), ← h.eq_append] at hlast
  simp only [lastReturn, hlast]

/-- What the line of a piece shows, and the break behind it, make up the piece with its feed. -/
theorem lineBreak_eq {c : Char} (h : LineSplit text i above piece (c :: below)) :
    stripReturn piece ++ text.lineBreak i = piece ++ ['\n'] := by
  have hbreak : text.lineBreak i = lastReturn piece ++ ['\n'] := by
    rw [lineBreak, h.start_eq, h.next_eq_some]
    simp only [h.slice_eq, breakOf_feed]
  rw [hbreak, ← List.append_assoc, stripReturn_append_lastReturn]

theorem lineBreak_last (h : LineSplit text i above piece []) : text.lineBreak i = [] := by
  rw [lineBreak, h.start_eq, h.next_eq_none]

/-- The next line stands below this one and its feed. -/
theorem next {c : Char} (h : LineSplit text i above piece (c :: below)) :
    LineSplit text (i + 1) (above ++ (piece ++ ['\n'])) (below.takeWhile (· ≠ '\n'))
      (below.dropWhile (· ≠ '\n')) := by
  obtain rfl : c = '\n' := h.opens c rfl
  have hends : (above ++ (piece ++ ['\n'])).EndsLine :=
    endsLine_iff.mpr (.inr ⟨above ++ piece, by simp⟩)
  have hnext := lineSplit_above hends below
  simpa [h.eq_append, h.count_above, h.count_piece] using hnext

end LineSplit

/-! ## The lines joined again -/

theorem rejoined_succ (text : Text) (n : Nat) :
    text.rejoined (n + 1) = text.rejoined n ++ ((text.line? n).getD [] ++ text.lineBreak n) := by
  rw [rejoined, List.range_succ, List.flatMap_append, List.flatMap_singleton, rejoined]

/-- The lines above a line are the text up to where that line starts. -/
theorem exists_lineSplit_rejoined {text : Text} {i : Nat} (h : i < text.lineCount) :
    ∃ piece below, LineSplit text i (text.rejoined i) piece below := by
  induction i with
  | zero => exact ⟨_, _, lineSplit_above endsLine_nil text⟩
  | succ i ih =>
    obtain ⟨piece, below, hsplit⟩ := ih (by omega)
    rcases below with _ | ⟨c, below⟩
    · have := hsplit.below_eq_nil_iff.mp rfl
      omega
    · have habove : text.rejoined (i + 1) = text.rejoined i ++ (piece ++ ['\n']) := by
        rw [rejoined_succ, hsplit.line?_eq, Option.getD_some, hsplit.lineBreak_eq]
      exact ⟨_, _, habove ▸ hsplit.next⟩

/-- The last line stands below all the others, and nothing below it. -/
theorem exists_lineSplit_last (text : Text) :
    ∃ piece, LineSplit text (text.count '\n') (text.rejoined (text.count '\n')) piece [] := by
  obtain ⟨piece, below, hsplit⟩ :=
    exists_lineSplit_rejoined (Nat.lt_of_lt_of_eq (Nat.lt_succ_self _) (lineCount_eq text).symm)
  obtain rfl : below = [] := hsplit.below_eq_nil_iff.mpr (lineCount_eq text).symm
  exact ⟨piece, hsplit⟩

theorem rejoined_append_lastReturn (text : Text) :
    text.rejoined text.lineCount ++ text.lastReturn = text := by
  obtain ⟨piece, hsplit⟩ := exists_lineSplit_last text
  calc text.rejoined text.lineCount ++ text.lastReturn
      = text.rejoined (text.count '\n') ++ (stripReturn piece ++ lastReturn piece) := by
        rw [lineCount_eq, rejoined_succ, hsplit.line?_eq, hsplit.lineBreak_last,
          hsplit.lastReturn_eq]
        simp
    _ = text := by
        rw [stripReturn_append_lastReturn, ← List.append_nil (_ ++ piece), ← hsplit.eq_append]

/-! ## Offsets that positions reach -/

/-- A cut of a text is one of the piece that it stands in. -/
theorem exists_lineSplit_of_cut (before after : Text) :
    ∃ above shown behind below, before = above ++ shown ∧ after = behind ++ below ∧
      LineSplit (before ++ after) (before.count '\n') above (shown ++ behind) below := by
  obtain ⟨shown, hsplit⟩ := exists_lineSplit_last before
  have hbefore : before = before.rejoined (before.count '\n') ++ shown :=
    hsplit.eq_append.trans (List.append_nil _)
  have hshown : ∀ c ∈ shown, decide (c ≠ '\n') = true := by
    intro c hc
    simpa using ne_of_mem_of_not_mem hc hsplit.feedless
  have hwhole := lineSplit_above hsplit.endsLine (shown ++ after)
  rw [List.takeWhile_append_of_pos hshown, List.dropWhile_append_of_pos hshown, hsplit.count_above,
    ← List.append_assoc, ← hbefore] at hwhole
  exact ⟨_, shown, _, _, hbefore, List.takeWhile_append_dropWhile.symm, hwhole⟩

theorem lt_lineCount_of_line? {text line : Text} {i : Nat} (h : text.line? i = some line) :
    i < text.lineCount := by
  rw [← Nat.not_le, ← line?_eq_none_iff, h]
  exact Option.some_ne_none line

/-- A line that is there is what a piece of the text shows. -/
theorem exists_lineSplit_of_line? {text line : Text} {i : Nat} (h : text.line? i = some line) :
    ∃ above piece below, LineSplit text i above piece below ∧ stripReturn piece = line := by
  obtain ⟨above, piece, below, hsplit⟩ := exists_lineSplit (lt_lineCount_of_line? h)
  exact ⟨above, piece, below, hsplit, Option.some.inj (hsplit.line?_eq.symm.trans h)⟩

/-- An offset between two characters has a position unless it stands behind a return that its line
does not show. -/
theorem reaches_iff {before after : Text} :
    (before ++ after).Reaches (octets before) ↔
      ¬ (before.getLast? = some '\r' ∧ ∀ c ∈ after.head?, c = '\n') := by
  obtain ⟨above, shown, behind, below, rfl, rfl, hsplit⟩ := exists_lineSplit_of_cut before after
  have hbehind : (∀ c ∈ (behind ++ below).head?, c = '\n') ↔ behind = [] := by
    rcases behind with _ | ⟨c, more⟩
    · simpa using hsplit.opens
    · have hc : c ≠ '\n' := ne_of_mem_of_not_mem (by simp) hsplit.feedless
      simpa using hc
  have hlast := hsplit.endsLine.getLast?_append_return shown
  rw [hlast, hbehind, ← isPrefix_stripReturn_iff]
  constructor
  · rintro ⟨position, hoffset⟩
    obtain ⟨_, hline, hlength⟩ := exists_line_of_positionToOctet? hoffset
    -- The text before the position is the text before the cut, so the position is on its line.
    have hupTo := takeOctets_of_isPrefix (upTo_isPrefix (above ++ shown ++ (behind ++ below))
      position.line position.character)
    rw [hlength, takeOctets_octets_append] at hupTo
    have hcount := count_upTo (lt_lineCount_of_line? hline) position.character
    rw [← hupTo] at hcount
    rw [← hcount, hsplit.upTo_eq, List.append_cancel_left_eq] at hupTo
    have hprefix := columnPrefix_isPrefix (stripReturn (shown ++ behind)) position.character
    rwa [← hupTo] at hprefix
  · rintro ⟨more, hmore⟩
    refine ⟨⟨(above ++ shown).count '\n', units shown⟩, ?_⟩
    rw [positionToOctet?_of_line hsplit.line?_eq hsplit.start_eq, ← hmore,
      columnPrefix_units_append, octets_append]

/-! ## Lines and breaks -/

theorem feed_notMem_of_line? {text line : Text} {i : Nat} (h : text.line? i = some line) :
    '\n' ∉ line := by
  obtain ⟨above, piece, below, hsplit, rfl⟩ := exists_lineSplit_of_line? h
  exact fun hmem => hsplit.feedless ((stripReturn_isPrefix piece).subset hmem)

/-- The line that starts at an offset stands below as many octets. -/
theorem exists_lineSplit_of_start {text : Text} {i start : Nat}
    (h : text.lineStarts[i]? = some start) :
    ∃ above piece below, LineSplit text i above piece below ∧ octets above = start := by
  obtain ⟨above, piece, below, hsplit⟩ := exists_lineSplit (List.getElem?_eq_some_iff.mp h).1
  exact ⟨above, piece, below, hsplit, Option.some.inj (hsplit.start_eq.symm.trans h)⟩

/-- The lines and the breaks between them make up the text, but for a carriage return at its very
end, which the last line does not show although no feed follows it. Where no return ends the text,
that line is all the text from its start, the lines with their breaks are the text again, and each
character out of the breaks has positions on both of its sides. -/
theorem lines_and_breaks_make_up_all_but_a_last_return (text : Text) :
    (∀ i start next, text.lineStarts[i]? = some start → text.lineStarts[i + 1]? = some next →
      ∃ line, text.line? i = some line ∧
        text.slice start next = line ++ breakOf (text.slice start next)) ∧
    (∀ i start, i + 1 = text.lineCount → text.lineStarts[i]? = some start →
      ∃ line, text.line? i = some line ∧ text.dropOctets start = line ++ text.lastReturn) ∧
    (∀ i line, text.line? i = some line → '\n' ∉ line) ∧
    (∀ i, text.lineCount ≤ i → text.line? i = none) ∧
    text.rejoined text.lineCount ++ text.lastReturn = text ∧
    (∀ before c after, text = before ++ c :: after → c ≠ '\n' →
      ¬ (c = '\r' ∧ after.head? = some '\n') →
      text.Reaches (octets before) ∧
        (text.Reaches (octets (before ++ [c])) ↔ ¬ (c = '\r' ∧ after = []))) := by
  refine ⟨?_, ?_, fun i line => feed_notMem_of_line?, fun i => line?_eq_none_iff.mpr,
    rejoined_append_lastReturn text, ?_⟩
  · intro i start next hstart hnext
    obtain ⟨above, piece, below, hsplit, rfl⟩ := exists_lineSplit_of_start hstart
    rcases below with _ | ⟨c, below⟩
    · rw [hsplit.next_eq_none] at hnext
      cases hnext
    · obtain rfl : octets above + octets piece + 1 = next :=
        Option.some.inj (hsplit.next_eq_some.symm.trans hnext)
      refine ⟨_, hsplit.line?_eq, ?_⟩
      rw [hsplit.slice_eq, breakOf_feed, ← List.append_assoc, stripReturn_append_lastReturn]
  · intro i start hlast hstart
    obtain ⟨above, piece, below, hsplit, rfl⟩ := exists_lineSplit_of_start hstart
    obtain rfl : below = [] := hsplit.below_eq_nil_iff.mpr hlast
    refine ⟨_, hsplit.line?_eq, ?_⟩
    rw [hsplit.dropOctets_eq, List.append_nil, ← hsplit.lastReturn_eq,
      stripReturn_append_lastReturn]
  · rintro before c after rfl hfeed hreturn
    have hstart := @reaches_iff before (c :: after)
    have hstop := @reaches_iff (before ++ [c]) after
    rw [List.append_assoc, List.singleton_append] at hstop
    rw [hstart, hstop, List.getLast?_concat, Option.some.injEq]
    constructor
    · rintro ⟨-, hc⟩
      exact hfeed (hc c rfl)
    · rcases after with _ | ⟨d, more⟩
      · simp
      · simpa using hreturn

/-- Two lines, the second of which ends in a return of its own. -/
theorem two_lines_make_up_all_but_a_last_return :
    let text : Text := "a\r\nb\r".toList
    (∃ line, text.line? 0 = some line ∧
      text.slice 0 3 = line ++ breakOf (text.slice 0 3)) ∧
    (∃ line, text.line? 1 = some line ∧ text.dropOctets 3 = line ++ text.lastReturn) ∧
    text.line? 2 = none ∧
    text.rejoined text.lineCount ++ text.lastReturn = text ∧
    text.Reaches 4 ∧ ¬ text.Reaches 5 := by
  intro text
  obtain ⟨hbroken, hlast, -, hmissing, hjoined, hreached⟩ :=
    lines_and_breaks_make_up_all_but_a_last_return text
  obtain ⟨hstart, hstop⟩ := hreached "a\r\nb".toList '\r' [] (by decide +kernel) (by decide)
    (by decide)
  refine ⟨hbroken 0 0 3 (by decide +kernel) (by decide +kernel),
    hlast 1 3 (by decide +kernel) (by decide +kernel), hmissing 2 (by decide +kernel), hjoined,
    hstart, ?_⟩
  intro hreaches
  exact hstop.mp hreaches ⟨rfl, rfl⟩

/-- The only line is the whole text, and it shows less than that. -/
theorem lines_and_breaks_lose_a_return_at_the_end :
    let text : Text := "a\r".toList
    text.lineStarts = [0] ∧ text.dropOctets 0 = "a\r".toList ∧ text.line? 0 = some "a".toList ∧
    text.rejoined text.lineCount = "a".toList := by
  decide +kernel

end Text

end DelugeAssist
