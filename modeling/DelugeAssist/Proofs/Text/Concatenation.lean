-- The lines of one text put behind another. The line feeds of the first text say how far the lines
-- of the second move; a text that ends its last line adds nothing else to them, so any line can be
-- read as the first line of what stands below the lines above it.

import DelugeAssist.Proofs.Text.Offset
import Mathlib.Data.List.TakeWhile

namespace DelugeAssist

namespace Text

/-! ## How many lines there are -/

theorem length_pieces (text : Text) : text.pieces.length = text.count '\n' + 1 := by
  induction text with
  | nil => rfl
  | cons c rest ih =>
    rw [pieces]
    by_cases hc : c = '\n'
    · simp [hc, ih]
    · obtain ⟨piece, more, hp⟩ := List.exists_cons_of_ne_nil (pieces_ne_nil rest)
      rw [hp, List.length_cons] at ih
      simp [hc, hp, ih]

theorem length_startsAfter (offset : Nat) (text : Text) :
    (startsAfter offset text).length = text.count '\n' := by
  induction text generalizing offset with
  | nil => rfl
  | cons c rest ih =>
    unfold startsAfter
    split <;> simp [*]

theorem lineCount_eq (text : Text) : text.lineCount = text.count '\n' + 1 := by
  simp [lineCount, lineStarts, length_startsAfter]

theorem line?_eq_none_iff {text : Text} {i : Nat} : text.line? i = none ↔ text.lineCount ≤ i := by
  simp [line?, lineCount_eq, length_pieces]

/-- Without its first character a text has as many feeds fewer as there are lines fewer above each
of its later lines. -/
theorem lineBehind_add_count (c : Char) (rest : Text) (i : Nat) :
    lineBehind c i + (c :: rest).count '\n' = i + 1 + rest.count '\n' := by
  simp only [lineBehind, List.count_cons, beq_iff_eq]
  split <;> omega

/-- A piece without feeds, ended by one, comes before the pieces of the rest. -/
theorem pieces_append_feed {piece : Text} (h : '\n' ∉ piece) (rest : Text) :
    pieces (piece ++ '\n' :: rest) = piece :: pieces rest := by
  rw [pieces_eq_splitOn, List.splitOn_append_cons_self_of_not_mem h, pieces_eq_splitOn]

theorem feed_notMem_takeWhile (text : Text) : '\n' ∉ text.takeWhile (· ≠ '\n') := by
  intro hmem
  have := List.mem_takeWhile_imp hmem
  simp at this

/-! ## Lines of the first text -/

theorem takeWhile_append_of_feed {first : Text} (h : 0 < first.count '\n') (later : Text) :
    (first ++ later).takeWhile (· ≠ '\n') = first.takeWhile (· ≠ '\n') := by
  have hfeed : '\n' ∈ first := List.count_pos_iff.mp h
  rw [List.takeWhile_append, if_neg]
  intro hlength
  have hall := (List.takeWhile_prefix (· ≠ '\n')).eq_of_length hlength
  exact feed_notMem_takeWhile first (by rwa [hall])

theorem firstLine_append_of_feed {first : Text} (h : 0 < first.count '\n') (later : Text) :
    firstLine (first ++ later) = firstLine first := by
  rw [firstLine, takeWhile_append_of_feed h, firstLine]

/-- A line that a feed ends shows the same whatever comes behind. -/
theorem line?_append_of_lt {first : Text} {i : Nat} (h : i < first.count '\n') (later : Text) :
    line? (first ++ later) i = line? first i := by
  induction first generalizing i with
  | nil => simp at h
  | cons c rest ih =>
    cases i with
    | zero => rw [line?_zero, line?_zero, firstLine_append_of_feed h]
    | succ i =>
      rw [List.cons_append, line?_cons_succ, line?_cons_succ]
      have := lineBehind_add_count c rest i
      exact ih (by omega)

/-! ## Lines of the second text -/

/-- A line below the feeds of a text stands, behind the first character, below the feeds of the
rest. -/
theorem exists_lineBehind (c : Char) {rest : Text} {j : Nat} (h : 0 < rest.count '\n' + j) :
    ∃ i, (c :: rest).count '\n' + j = i + 1 ∧ lineBehind c i = rest.count '\n' + j := by
  have hpos : 0 < (c :: rest).count '\n' + j := by
    rw [List.count_cons]
    omega
  obtain ⟨i, hi⟩ := Nat.exists_eq_succ_of_ne_zero (Nat.ne_of_gt hpos)
  have := lineBehind_add_count c rest i
  exact ⟨i, hi, by omega⟩

/-- All but the first line of the second text are lines of the whole, further down by the feeds of
the first. -/
theorem line?_append_add (first later : Text) {j : Nat} (h : 0 < j) :
    line? (first ++ later) (first.count '\n' + j) = line? later j := by
  induction first with
  | nil => simp
  | cons c rest ih =>
    obtain ⟨i, hi, hbehind⟩ := exists_lineBehind c (Nat.add_pos_right (rest.count '\n') h)
    rw [hi, List.cons_append, line?_cons_succ, hbehind, ih]

theorem startsAfter_append (offset : Nat) (first later : Text) :
    startsAfter offset (first ++ later) =
      startsAfter offset first ++ startsAfter (offset + octets first) later := by
  induction first generalizing offset with
  | nil => simp [startsAfter]
  | cons c rest ih =>
    simp only [List.cons_append, startsAfter, octets_cons, ih, ← Nat.add_assoc]
    split <;> simp

/-- The lines start where those of the first text do, and then where those of the second do, further
on by the length of the first. -/
theorem lineStarts_append (first later : Text) :
    lineStarts (first ++ later) =
      lineStarts first ++ (lineStarts later).tail.map (octets first + ·) := by
  simp only [lineStarts, startsAfter_append, List.cons_append, List.tail_cons, Nat.zero_add]
  rw [startsAfter_eq (octets first) later]

/-! ## Whole lines above a line -/

/-- The text is made of whole lines: it is empty or ends in a line feed. -/
def EndsLine (text : Text) : Prop := ∀ c ∈ text.getLast?, c = '\n'

theorem endsLine_iff {text : Text} :
    text.EndsLine ↔ text = [] ∨ ∃ above, text = above ++ ['\n'] := by
  unfold EndsLine
  rcases List.eq_nil_or_concat text with rfl | ⟨above, c, rfl⟩
  · simp
  · simp [List.concat_eq_append]

/-- Each line that is there stands below as many whole lines as its number says. -/
theorem exists_above {text : Text} {i : Nat} (h : i < text.lineCount) :
    ∃ above rest, text = above ++ rest ∧ above.EndsLine ∧ above.count '\n' = i := by
  rw [lineCount_eq, Nat.lt_succ_iff] at h
  induction text generalizing i with
  | nil => exact ⟨[], [], rfl, by simp [EndsLine], (Nat.le_zero.mp h).symm⟩
  | cons c text ih =>
    cases i with
    | zero => exact ⟨[], c :: text, rfl, by simp [EndsLine], rfl⟩
    | succ i =>
      have hadd := lineBehind_add_count c text i
      obtain ⟨above, rest, rfl, hends, hcount⟩ : ∃ above rest : Text, text = above ++ rest ∧
          above.EndsLine ∧ above.count '\n' = lineBehind c i := ih (by omega)
      refine ⟨c :: above, rest, rfl, ?_, ?_⟩
      · rcases endsLine_iff.mp hends with rfl | ⟨more, rfl⟩
        · -- Above an empty rest of lines only a line feed can end the line before.
          by_cases hc : c = '\n'
          · simp [EndsLine, hc]
          · simp [lineBehind, hc] at hcount
        · exact endsLine_iff.mpr (.inr ⟨c :: more, rfl⟩)
      · have := lineBehind_add_count c above i
        omega

section Above

variable {above : Text} (h : above.EndsLine) (rest : Text)
include h

theorem line?_above (j : Nat) : line? (above ++ rest) (above.count '\n' + j) = line? rest j := by
  rcases endsLine_iff.mp h with rfl | ⟨more, rfl⟩
  · simp
  · have hmoved := line?_append_add more ('\n' :: rest) (Nat.succ_pos j)
    rw [line?_cons_succ, lineBehind, if_pos rfl] at hmoved
    rw [← hmoved, List.append_assoc, List.count_append, List.count_singleton_self, Nat.add_assoc,
      Nat.add_comm 1 j, List.singleton_append]

theorem upTo_above (line column : Nat) :
    upTo (above ++ rest) (above.count '\n' + line) column = above ++ upTo rest line column := by
  rcases endsLine_iff.mp h with rfl | ⟨more, rfl⟩
  · simp
  · clear h
    induction more with
    | nil => simp [lineBehind, Nat.add_comm 1 line]
    | cons c more ih =>
      have hfeed : 0 < (more ++ ['\n']).count '\n' := List.count_pos_iff.mpr (by simp)
      obtain ⟨i, hi, hbehind⟩ := exists_lineBehind c (Nat.add_pos_left hfeed line)
      rw [List.cons_append, hi, List.cons_append, upTo_cons_succ, hbehind, ih, List.cons_append]

theorem lineStarts_above (j : Nat) :
    (lineStarts (above ++ rest))[above.count '\n' + j]? =
      (lineStarts rest)[j]?.map (octets above + ·) := by
  have hlength : (lineStarts above).length = above.count '\n' + 1 := lineCount_eq above
  rw [lineStarts_append]
  cases j with
  | zero =>
    rw [List.getElem?_append_left (by omega)]
    rcases endsLine_iff.mp h with rfl | ⟨more, rfl⟩
    · rfl
    · -- The feed at the end of the lines above adds the start that they end with.
      have hmore : (lineStarts more).length = more.count '\n' + 1 := lineCount_eq more
      have hstarts :
          lineStarts (more ++ ['\n']) = lineStarts more ++ [octets (more ++ ['\n'])] := by
        rw [lineStarts_append, octets_append]
        rfl
      rw [hstarts, List.count_append, List.count_singleton_self, Nat.add_zero, ← hmore,
        List.getElem?_concat_length]
      rfl
  | succ j =>
    rw [List.getElem?_append_right (by omega), hlength, List.getElem?_map, List.getElem?_tail]
    congr 2
    omega

end Above

/-! ## A line between what stands above and below it -/

/-- A text cut in three at one of its lines: the whole lines above it, the piece that it is read
from, and what comes behind, from the feed that ends the piece. -/
structure LineSplit (text : Text) (i : Nat) (above piece below : Text) : Prop where
  eq_append : text = above ++ piece ++ below
  endsLine : above.EndsLine
  count_above : above.count '\n' = i
  feedless : '\n' ∉ piece
  opens : ∀ c ∈ below.head?, c = '\n'

/-- Below whole lines a text is cut at the first feed of what is left. -/
theorem lineSplit_above {above : Text} (h : above.EndsLine) (rest : Text) :
    LineSplit (above ++ rest) (above.count '\n') above (rest.takeWhile (· ≠ '\n'))
      (rest.dropWhile (· ≠ '\n')) where
  eq_append := by rw [List.append_assoc, List.takeWhile_append_dropWhile]
  endsLine := h
  count_above := rfl
  feedless := feed_notMem_takeWhile rest
  opens := by
    intro c hc
    have hhead := List.head?_dropWhile_not (· ≠ '\n') rest
    rw [Option.mem_def.mp hc] at hhead
    simpa using hhead

/-- Each line that is there cuts its text in three. -/
theorem exists_lineSplit {text : Text} {i : Nat} (h : i < text.lineCount) :
    ∃ above piece below, LineSplit text i above piece below := by
  obtain ⟨above, rest, rfl, hends, rfl⟩ := exists_above h
  exact ⟨above, _, _, lineSplit_above hends rest⟩

theorem firstLine_append {piece below : Text} (hpiece : '\n' ∉ piece)
    (hbelow : ∀ c ∈ below.head?, c = '\n') : firstLine (piece ++ below) = stripReturn piece := by
  have hall : ∀ c ∈ piece, decide (c ≠ '\n') = true := by
    intro c hc
    simp only [ne_eq, decide_eq_true_eq]
    rintro rfl
    exact hpiece hc
  unfold firstLine
  rw [List.takeWhile_append_of_pos hall]
  rcases below with _ | ⟨c, more⟩
  · simp
  · simp [hbelow c rfl]

namespace LineSplit

variable {text above piece below : Text} {i : Nat}

theorem count_piece (h : LineSplit text i above piece below) : piece.count '\n' = 0 :=
  List.count_eq_zero.mpr h.feedless

theorem line?_eq (h : LineSplit text i above piece below) :
    text.line? i = some (stripReturn piece) := by
  have hline := line?_above h.endsLine (piece ++ below) 0
  rwa [Nat.add_zero, h.count_above, ← List.append_assoc, ← h.eq_append, line?_zero,
    firstLine_append h.feedless h.opens] at hline

theorem start_eq (h : LineSplit text i above piece below) :
    text.lineStarts[i]? = some (octets above) := by
  have hstart := lineStarts_above h.endsLine (piece ++ below) 0
  rwa [Nat.add_zero, h.count_above, ← List.append_assoc, ← h.eq_append, lineStarts_zero] at hstart

theorem upTo_eq (h : LineSplit text i above piece below) (column : Nat) :
    upTo text i column = above ++ columnPrefix (stripReturn piece) column := by
  have hup := upTo_above h.endsLine (piece ++ below) 0 column
  rwa [Nat.add_zero, h.count_above, ← List.append_assoc, ← h.eq_append, upTo_zero,
    firstLine_append h.feedless h.opens] at hup

/-- Nothing comes behind the piece of the last line. -/
theorem next_eq_none (h : LineSplit text i above piece []) : text.lineStarts[i + 1]? = none := by
  apply List.getElem?_eq_none
  rw [← lineCount, lineCount_eq, h.eq_append]
  simp [h.count_above, h.count_piece]

/-- The next line starts behind the feed that ends the piece. -/
theorem next_eq_some {c : Char} (h : LineSplit text i above piece (c :: below)) :
    text.lineStarts[i + 1]? = some (octets above + octets piece + 1) := by
  obtain rfl : c = '\n' := h.opens c rfl
  have hends : (above ++ piece ++ ['\n']).EndsLine := endsLine_iff.mpr (.inr ⟨_, rfl⟩)
  have hcount : (above ++ piece ++ ['\n']).count '\n' = i + 1 := by
    simp [h.count_above, h.count_piece]
  have hstart := lineStarts_above hends below 0
  rw [Nat.add_zero, hcount, List.append_assoc, List.singleton_append, ← h.eq_append,
    octets_append, octets_append] at hstart
  exact hstart

end LineSplit

/-! ## Feeds before a position -/

theorem feed_notMem_columnPrefix {piece : Text} (h : '\n' ∉ piece) (column : Nat) :
    '\n' ∉ columnPrefix (stripReturn piece) column := fun hmem =>
  h ((stripReturn_isPrefix piece).subset ((columnPrefix_isPrefix _ column).subset hmem))

/-- As many line feeds stand before a position as its line says, if that line is there. -/
theorem count_upTo {text : Text} {line : Nat} (h : line < text.lineCount) (column : Nat) :
    (upTo text line column).count '\n' = line := by
  obtain ⟨above, piece, below, hsplit⟩ := exists_lineSplit h
  rw [hsplit.upTo_eq, List.count_append, hsplit.count_above,
    List.count_eq_zero.mpr (feed_notMem_columnPrefix hsplit.feedless column), Nat.add_zero]

end Text

end DelugeAssist
