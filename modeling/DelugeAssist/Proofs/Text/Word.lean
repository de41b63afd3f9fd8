-- The word at a position. A cursor cuts its line in two; the word is the run of word characters on
-- both sides of the cut, and its range has the columns of the two ends of that run.

import DelugeAssist.Proofs.Text.Offset
import DelugeAssist.Text.Word
import Mathlib.Data.List.DropRight

namespace DelugeAssist

namespace Text

/-! ## The run at a cut -/

/-- What stands to the left of the run that a cut stands in. -/
def beforeRun (left : Text) : Text := left.rdropWhile isWordChar

/-- The run of word characters on both sides of a cut. -/
def runAt (left right : Text) : Text :=
  left.rtakeWhile isWordChar ++ right.takeWhile isWordChar

/-- What stands to the right of the run that a cut stands in. -/
def afterRun (right : Text) : Text := right.dropWhile isWordChar

theorem beforeRun_append (left : Text) : beforeRun left ++ left.rtakeWhile isWordChar = left :=
  List.rdropWhile_append_rtakeWhile

theorem runAt_split (left right : Text) :
    beforeRun left ++ runAt left right ++ afterRun right = left ++ right := by
  have hright : right.takeWhile isWordChar ++ afterRun right = right :=
    List.takeWhile_append_dropWhile
  calc beforeRun left ++ runAt left right ++ afterRun right
      = (beforeRun left ++ left.rtakeWhile isWordChar) ++
          (right.takeWhile isWordChar ++ afterRun right) := by simp [runAt]
    _ = left ++ right := by rw [beforeRun_append, hright]

theorem isWordChar_of_mem_runAt {left right : Text} {c : Char} (h : c ∈ runAt left right) :
    isWordChar c = true := by
  rcases List.mem_append.mp h with hl | hr
  · exact List.mem_rtakeWhile_imp hl
  · exact List.mem_takeWhile_imp hr

theorem beforeRun_getLast {left : Text} {c : Char} (h : c ∈ (beforeRun left).getLast?) :
    isWordChar c = false := by
  have hne : beforeRun left ≠ [] := by
    intro hnil
    simp [hnil] at h
  have hlast := List.rdropWhile_last_not isWordChar left hne
  rw [List.getLast?_eq_getLast_of_ne_nil hne, Option.mem_some_iff] at h
  rw [← h]
  simpa [beforeRun] using hlast

theorem afterRun_head {right : Text} {c : Char} (h : c ∈ (afterRun right).head?) :
    isWordChar c = false := by
  have hhead := List.head?_dropWhile_not isWordChar right
  rw [← afterRun, Option.mem_def.mp h] at hhead
  exact hhead

/-! ## The start and the end of the run -/

/-- The last break of what stands to the left of a cut is the last character before the run. -/
theorem lastBreak?_eq (left : Text) :
    left.lastBreak? = (beforeRun left).getLast?.map fun c => ((beforeRun left).dropLast, c) := by
  unfold lastBreak? beforeRun List.rdropWhile
  rcases left.reverse.dropWhile isWordChar with _ | ⟨c, rest⟩
  · rfl
  · simp

/-- The start of the run is right where no character of several octets stands before the run, and
lies inside of that character otherwise. -/
theorem wordStart_of_isBoundary {left right : Text}
    (h : isBoundary (left ++ right) (wordStart left) = true) :
    wordStart left = octets (beforeRun left) := by
  unfold wordStart at h ⊢
  rw [lastBreak?_eq] at h ⊢
  rcases List.eq_nil_or_concat (beforeRun left) with hnil | ⟨earlier, c, hlast⟩
  · simp [hnil]
  · rw [List.concat_eq_append] at hlast
    simp only [hlast, List.getLast?_concat, Option.map_some, List.dropLast_concat] at h ⊢
    obtain ⟨before, hbefore, hlength⟩ := isBoundary_iff_isPrefix.mp h
    have hrun : beforeRun left <+: left ++ right :=
      ⟨runAt left right ++ afterRun right, by rw [← List.append_assoc, runAt_split]⟩
    have hc := c.utf8Size_pos
    rw [hlast] at hrun
    -- The boundary is past `earlier` and no further than `c`, so it is the end of `c`.
    have hinside : before <+: earlier ++ [c] :=
      isPrefix_of_octets_le hbefore hrun (by simp only [octets_append, octets_cons]; omega)
    rcases List.prefix_concat_iff.mp hinside with rfl | hshort
    · exact hlength.symm
    · have := octets_le_of_isPrefix hshort
      omega

theorem wordStop_eq (left right : Text) :
    octets left + wordStop right = octets (beforeRun left) + octets (runAt left right) := by
  have hlength := congrArg octets (beforeRun_append left)
  simp only [octets_append] at hlength
  simp only [wordStop, runAt, octets_append]
  omega

/-! ## The word -/

/-- The start of the run, where it has a column. -/
theorem octetToColumn?_wordStart {left right : Text} {first : Nat}
    (h : octetToColumn? (left ++ right) (wordStart left) = some first) :
    wordStart left = octets (beforeRun left) ∧ first = units (beforeRun left) := by
  have hboundary : isBoundary (left ++ right) (wordStart left) = true := by
    unfold octetToColumn? at h
    split at h
    · assumption
    · cases h
  have hstart := wordStart_of_isBoundary hboundary
  have hcolumn := octetToColumn?_octets_append (beforeRun left) (runAt left right ++ afterRun right)
  rw [← List.append_assoc, runAt_split, ← hstart, h] at hcolumn
  exact ⟨hstart, Option.some.inj hcolumn⟩

/-- The end of the run always has a column. -/
theorem octetToColumn?_wordStop (left right : Text) :
    octetToColumn? (left ++ right) (octets left + wordStop right) =
      some (units (beforeRun left ++ runAt left right)) := by
  have hcolumn := octetToColumn?_octets_append (beforeRun left ++ runAt left right) (afterRun right)
  rw [runAt_split, octets_append] at hcolumn
  rw [wordStop_eq, hcolumn]

theorem slice_runAt (left right : Text) :
    (left ++ right).slice (octets (beforeRun left)) (octets left + wordStop right) =
      runAt left right := by
  have hslice := slice_append (beforeRun left) (runAt left right) (afterRun right)
  rw [runAt_split] at hslice
  rw [wordStop_eq, hslice]

/-- A word is the run at the cursor, under the columns of its two ends. -/
theorem wordAt?_eq_some {text : Text} {position : Position} {word : Word}
    (h : text.wordAt? position = some word) :
    ∃ left right, text.line? position.line = some (left ++ right) ∧
      columnPrefix (left ++ right) position.character = left ∧ runAt left right ≠ [] ∧
      word = ⟨runAt left right, ⟨position.line, units (beforeRun left)⟩,
        ⟨position.line, units (beforeRun left ++ runAt left right)⟩⟩ := by
  unfold wordAt? at h
  rcases hline : text.line? position.line with _ | line
  · simp [hline] at h
  · obtain ⟨right, hright⟩ := columnPrefix_isPrefix line position.character
    simp only [hline, columnOctet_eq, Option.bind_eq_bind, Option.bind_some] at h
    generalize hleft : columnPrefix line position.character = left at h hright
    subst hright
    rw [takeOctets_octets_append, dropOctets_octets_append] at h
    split at h
    · cases h
    · rename_i hne
      rcases hfirst : octetToColumn? (left ++ right) (wordStart left) with _ | first
      · simp [hfirst] at h
      · obtain ⟨hstart, rfl⟩ := octetToColumn?_wordStart hfirst
        rw [hfirst, octetToColumn?_wordStop, hstart, slice_runAt] at h
        rw [hstart, wordStop_eq] at hne
        refine ⟨left, right, rfl, hleft, ?_, ?_⟩
        · intro hnil
          simp [hnil] at hne
        · exact (Option.some.inj h).symm

/-- The columns of the two ends of a run lead back to the run. -/
theorem columnPrefix_beforeRun (left right : Text) :
    columnPrefix (left ++ right) (units (beforeRun left)) = beforeRun left := by
  rw [← runAt_split, List.append_assoc, columnPrefix_units_append]

theorem columnPrefix_runAt (left right : Text) :
    columnPrefix (left ++ right) (units (beforeRun left ++ runAt left right)) =
      beforeRun left ++ runAt left right := by
  rw [← runAt_split left right, columnPrefix_units_append]

theorem unitsOf_of_isWordChar {c : Char} (h : isWordChar c = true) : unitsOf c = 1 := by
  have hparts : (((c.isUpper || c.isLower) || c.isDigit) || c == '_') = true := h
  have hc : c.toNat ≤ 0xFFFF := by
    simp only [Bool.or_eq_true, beq_iff_eq] at hparts
    rcases hparts with ((hupper | hlower) | hdigit) | rfl
    · have hrange : 'A'.val ≤ c.val ∧ c.val ≤ 'Z'.val := of_decide_eq_true hupper
      exact (UInt32.le_iff_toNat_le.mp hrange.2).trans (by decide)
    · have hrange : (decide ('a'.val ≤ c.val) && decide (c.val ≤ 'z'.val)) = true := hlower
      have hlast : c.val ≤ 'z'.val := of_decide_eq_true (Bool.and_eq_true_iff.mp hrange).2
      exact (UInt32.le_iff_toNat_le.mp hlast).trans (by decide)
    · exact (Char.isDigit_iff_toNat.mp hdigit).2.trans (by decide)
    · decide
  simp [unitsOf, hc]

theorem units_runAt (left right : Text) : units (runAt left right) = (runAt left right).length := by
  have hrun : ∀ c ∈ runAt left right, unitsOf c = 1 :=
    fun c hc => unitsOf_of_isWordChar (isWordChar_of_mem_runAt hc)
  generalize runAt left right = run at hrun
  induction run with
  | nil => rfl
  | cons c rest ih =>
    rw [units_cons, List.length_cons, hrun c (by simp), ih fun d hd => hrun d (by simp [hd])]
    omega

end Text

/-! ## What a word stands for -/

/-- A word stands at a position of a text: it is a whole run of word characters of that line, its
range is the place of that run, and the position lies within the run or at an end of it. -/
structure Word.StandsAt (word : Word) (text : Text) (position : Position) : Prop where
  ne_nil : word.text ≠ []
  all_word : ∀ c ∈ word.text, isWordChar c = true
  start_line : word.range.start.line = position.line
  stop_line : word.range.stop.line = position.line
  width : word.range.stop.character = word.range.start.character + word.text.length
  /-- The columns fit 32 bits where the text does. -/
  narrow : text.octets < UInt32.size → word.range.stop.character < UInt32.size
  /-- The characters right before and right after the word in its line are of no word. -/
  whole : ∃ before after, text.line? position.line = some (before ++ word.text ++ after) ∧
    text.lineBefore? word.range.start = some before ∧
    (∀ c ∈ before.getLast?, isWordChar c = false) ∧ ∀ c ∈ after.head?, isWordChar c = false
  /-- The word is the text between the ends of its range, with the position between them. -/
  delimited : ∃ first cursor last, text.positionToOctet? word.range.start = some first ∧
    text.positionToOctet? position = some cursor ∧
    text.positionToOctet? word.range.stop = some last ∧
    first ≤ cursor ∧ cursor ≤ last ∧ text.slice first last = word.text

namespace Text

theorem standsAt_of_wordAt? {text : Text} {position : Position} {word : Word}
    (h : text.wordAt? position = some word) : word.StandsAt text position := by
  obtain ⟨left, right, hline, hcursor, hne, rfl⟩ := wordAt?_eq_some h
  obtain ⟨above, below, htext, hstart⟩ := line?_split hline
  have hsplit := runAt_split left right
  constructor
  · exact hne
  · exact fun c hc => isWordChar_of_mem_runAt hc
  · rfl
  · rfl
  · simp only [units_append, units_runAt]
  · intro hsmall
    have hunits := units_le_octets (beforeRun left ++ runAt left right)
    have hoctets : octets (beforeRun left ++ runAt left right) ≤ octets text := by
      rw [htext, ← hsplit]
      simp only [octets_append]
      omega
    exact Nat.lt_of_le_of_lt (hunits.trans hoctets) hsmall
  · refine ⟨beforeRun left, afterRun right, by rw [hline, hsplit], ?_, ?_, ?_⟩
    · simp only [lineBefore?_eq, hline, Option.map_some, columnPrefix_beforeRun]
    · exact fun c hc => beforeRun_getLast hc
    · exact fun c hc => afterRun_head hc
  · refine ⟨octets above + octets (beforeRun left), octets above + octets left,
      octets above + octets (beforeRun left ++ runAt left right), ?_, ?_, ?_, ?_, ?_, ?_⟩
    · rw [positionToOctet?_of_line hline hstart, columnPrefix_beforeRun]
    · rw [positionToOctet?_of_line hline hstart, hcursor]
    · rw [positionToOctet?_of_line hline hstart, columnPrefix_runAt]
    · have := congrArg octets (beforeRun_append left)
      rw [octets_append] at this
      omega
    · have := wordStop_eq left right
      simp only [octets_append]
      omega
    · have := slice_append (above ++ beforeRun left) (runAt left right) (afterRun right ++ below)
      rw [htext, ← hsplit]
      simpa [Nat.add_assoc] using this

end Text

end DelugeAssist
