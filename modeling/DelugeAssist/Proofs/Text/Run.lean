-- Which words are found. The run of word characters that a cursor touches is the word there just if
-- the character right before the run takes one octet; behind a wider one no word is found.

import DelugeAssist.Proofs.Text.Word

namespace DelugeAssist

namespace Text

/-- A run of word characters that cannot be made longer, with a cursor in it or at an end of it. -/
structure RunAt (line : Text) (cursor : Nat) (before run after : Text) : Prop where
  eq_append : line = before ++ run ++ after
  ne_nil : run ≠ []
  all_word : ∀ c ∈ run, isWordChar c = true
  opens : ∀ c ∈ before.getLast?, isWordChar c = false
  closes : ∀ c ∈ after.head?, isWordChar c = false
  start_le : octets before ≤ cursor
  le_stop : cursor ≤ octets (before ++ run)

-- The instances below name how the characters at hand are looked through: there are only finitely
-- many characters, and a search for an instance may come upon running through all of them.

instance (line : Text) (cursor : Nat) (before run after : Text) :
    Decidable (RunAt line cursor before run after) :=
  have := Option.decidableForallMem (p := (isWordChar · = false)) before.getLast?
  have := Option.decidableForallMem (p := (isWordChar · = false)) after.head?
  have := List.decidableBAll (isWordChar · = true) run
  decidable_of_iff
    (line = before ++ run ++ after ∧ run ≠ [] ∧ (∀ c ∈ run, isWordChar c = true) ∧
      (∀ c ∈ before.getLast?, isWordChar c = false) ∧ (∀ c ∈ after.head?, isWordChar c = false) ∧
      octets before ≤ cursor ∧ cursor ≤ octets (before ++ run))
    ⟨fun ⟨h₁, h₂, h₃, h₄, h₅, h₆, h₇⟩ => ⟨h₁, h₂, h₃, h₄, h₅, h₆, h₇⟩,
      fun ⟨h₁, h₂, h₃, h₄, h₅, h₆, h₇⟩ => ⟨h₁, h₂, h₃, h₄, h₅, h₆, h₇⟩⟩

/-- A word character stands right before a cursor or right behind it. -/
def Touches (line : Text) (cursor : Nat) : Prop :=
  (∃ c ∈ (line.takeOctets cursor).getLast?, isWordChar c = true) ∨
    ∃ c ∈ (line.dropOctets cursor).head?, isWordChar c = true

instance (line : Text) (cursor : Nat) : Decidable (line.Touches cursor) :=
  @instDecidableOr _ _ (Option.decidableExistsMem _) (Option.decidableExistsMem _)

/-- No wide character stands right before what follows. -/
def EndsNarrow (before : Text) : Prop := ∀ c ∈ before.getLast?, c.utf8Size = 1

instance (before : Text) : Decidable before.EndsNarrow := Option.decidableForallMem _

/-! ## Runs at a cut -/

variable {line left right before run after : Text}

/-- A cut touches a word character just if it stands at a run. -/
theorem touches_iff : (left ++ right).Touches (octets left) ↔ runAt left right ≠ [] := by
  have hleft : left.rtakeWhile isWordChar ≠ [] ↔ ∃ c ∈ left.getLast?, isWordChar c = true := by
    rcases List.eq_nil_or_concat left with rfl | ⟨earlier, c, rfl⟩
    · simp
    · rw [List.concat_eq_append, List.rtakeWhile_concat]
      simp
  have hright : right.takeWhile isWordChar ≠ [] ↔ ∃ c ∈ right.head?, isWordChar c = true := by
    cases right <;> simp [List.takeWhile_cons]
  rw [Touches, takeOctets_octets_append, dropOctets_octets_append, ← hleft, ← hright, runAt,
    ne_eq (_ ++ _), List.append_eq_nil_iff, Decidable.not_and_iff_or_not]

theorem runAt_of_cut (h : runAt left right ≠ []) :
    RunAt (left ++ right) (octets left) (beforeRun left) (runAt left right) (afterRun right) where
  eq_append := (runAt_split left right).symm
  ne_nil := h
  all_word := fun _ => isWordChar_of_mem_runAt
  opens := fun _ => beforeRun_getLast
  closes := fun _ => afterRun_head
  start_le := by
    have := congrArg octets (beforeRun_append left)
    rw [octets_append] at this
    omega
  le_stop := by
    have := wordStop_eq left right
    rw [octets_append]
    omega

theorem beforeRun_append_of_word {first : Text}
    (hopens : ∀ c ∈ before.getLast?, isWordChar c = false)
    (hword : ∀ c ∈ first, isWordChar c = true) : beforeRun (before ++ first) = before := by
  unfold beforeRun
  induction first using List.reverseRecOn with
  | nil =>
    rw [List.append_nil, List.rdropWhile_eq_self_iff]
    intro hne hlast
    rw [hopens _ (List.getLast?_eq_getLast_of_ne_nil hne)] at hlast
    cases hlast
  | append_singleton first c ih =>
    rw [← List.append_assoc, List.rdropWhile_concat_pos _ _ _ (hword c (by simp))]
    exact ih fun d hd => hword d (by simp [hd])

theorem takeWhile_append_of_word {last : Text} (hword : ∀ c ∈ last, isWordChar c = true)
    (hcloses : ∀ c ∈ after.head?, isWordChar c = false) :
    (last ++ after).takeWhile isWordChar = last := by
  rw [List.takeWhile_append_of_pos hword]
  cases after with
  | nil => simp
  | cons c rest => simp [hcloses c rfl]

/-- A cut has no more than one run. -/
theorem RunAt.eq_of_cut (h : RunAt (left ++ right) (octets left) before run after) :
    before = beforeRun left ∧ run = runAt left right := by
  obtain ⟨first, rfl⟩ : before <+: left :=
    isPrefix_of_octets_le ⟨run ++ after, by rw [h.eq_append, List.append_assoc]⟩
      (List.prefix_append left right) h.start_le
  obtain ⟨last, hlast⟩ : before ++ first <+: before ++ run :=
    isPrefix_of_octets_le (List.prefix_append _ right) ⟨after, h.eq_append.symm⟩ h.le_stop
  obtain rfl : first ++ last = run := by simpa using hlast
  obtain rfl : right = last ++ after := by simpa using h.eq_append
  have hbefore : beforeRun (before ++ first) = before :=
    beforeRun_append_of_word h.opens fun c hc => h.all_word c (by simp [hc])
  have hfirst : (before ++ first).rtakeWhile isWordChar = first := by
    have hsplit := beforeRun_append (before ++ first)
    rw [hbefore] at hsplit
    exact List.append_cancel_left hsplit
  have hlast : (last ++ after).takeWhile isWordChar = last :=
    takeWhile_append_of_word (fun c hc => h.all_word c (by simp [hc])) h.closes
  exact ⟨hbefore.symm, by rw [runAt, hfirst, hlast]⟩

/-! ## The start of the word -/

theorem wordStart_eq_iff :
    wordStart left = octets (beforeRun left) ↔ (beforeRun left).EndsNarrow := by
  unfold wordStart EndsNarrow
  rw [lastBreak?_eq]
  rcases List.eq_nil_or_concat (beforeRun left) with hnil | ⟨earlier, c, hlast⟩
  · simp [hnil]
  · rw [List.concat_eq_append] at hlast
    simp [hlast, eq_comm]

theorem wordAt?_of_narrow {text : Text} {position : Position}
    (hline : text.line? position.line = some (left ++ right))
    (hcursor : columnPrefix (left ++ right) position.character = left)
    (hrun : runAt left right ≠ []) (hnarrow : (beforeRun left).EndsNarrow) :
    text.wordAt? position =
      some ⟨runAt left right, ⟨position.line, units (beforeRun left)⟩,
        ⟨position.line, units (beforeRun left ++ runAt left right)⟩⟩ := by
  have hstart := wordStart_eq_iff.mpr hnarrow
  have hfirst := octetToColumn?_octets_append (beforeRun left) (runAt left right ++ afterRun right)
  rw [← List.append_assoc, runAt_split, ← hstart] at hfirst
  have hlength : octets (runAt left right) ≠ 0 := fun h => hrun (octets_eq_zero.mp h)
  unfold wordAt?
  simp only [hline, columnOctet_eq, hcursor, Option.bind_eq_bind, Option.bind_some,
    takeOctets_octets_append, dropOctets_octets_append]
  rw [if_neg (by rw [hstart, wordStop_eq]; omega), hfirst, octetToColumn?_wordStop, hstart,
    slice_runAt]
  rfl

theorem wordAt?_of_wide {text : Text} {position : Position}
    (hline : text.line? position.line = some (left ++ right))
    (hcursor : columnPrefix (left ++ right) position.character = left)
    (hwide : ¬ (beforeRun left).EndsNarrow) : text.wordAt? position = none := by
  have hfirst : octetToColumn? (left ++ right) (wordStart left) = none := by
    unfold octetToColumn?
    rw [if_neg]
    intro hboundary
    exact hwide (wordStart_eq_iff.mp (wordStart_of_isBoundary hboundary))
  unfold wordAt?
  simp only [hline, columnOctet_eq, hcursor, Option.bind_eq_bind, Option.bind_some,
    takeOctets_octets_append, dropOctets_octets_append, hfirst, Option.bind_none, ite_self]

/-! ## The word at a cursor -/

/-- The run of word characters that a cursor touches is the word there just if no wide character
stands right before it: what is taken for the start of the run is one octet behind the start of that
character, and within a wide one no column stands for that. -/
theorem a_run_is_the_word_unless_a_wide_character_precedes_it {text line : Text}
    {position : Position} (hline : text.line? position.line = some line)
    (htouch : line.Touches (line.columnOctet position.character)) :
    (∃ before run after, RunAt line (line.columnOctet position.character) before run after) ∧
    ∀ before run after, RunAt line (line.columnOctet position.character) before run after →
      text.wordAt? position =
        if before.EndsNarrow then
          some ⟨run, ⟨position.line, units before⟩, ⟨position.line, units (before ++ run)⟩⟩
        else none := by
  obtain ⟨right, hright⟩ := columnPrefix_isPrefix line position.character
  rw [columnOctet_eq] at htouch ⊢
  generalize hleft : columnPrefix line position.character = left at htouch hright ⊢
  subst hright
  have hrun : runAt left right ≠ [] := touches_iff.mp htouch
  refine ⟨⟨_, _, _, runAt_of_cut hrun⟩, ?_⟩
  intro before run after hat
  obtain ⟨rfl, rfl⟩ := hat.eq_of_cut
  split
  · exact wordAt?_of_narrow hline hleft hrun ‹_›
  · exact wordAt?_of_wide hline hleft ‹_›

/-- A cursor in a word that a space precedes, and one in a word behind a letter of two octets. -/
theorem a_run_is_the_word_behind_a_space_but_no_accent :
    let text : Text := "né info\nétat".toList
    let spaced : Position := ⟨0, 5⟩
    let accented : Position := ⟨1, 2⟩
    text.line? spaced.line = some "né info".toList ∧
    text.wordAt? spaced = some ⟨"info".toList, ⟨⟨0, 3⟩, ⟨0, 7⟩⟩⟩ ∧
    text.line? accented.line = some "état".toList ∧
    text.wordAt? accented = none := by
  intro text spaced accented
  have hspaced : text.line? spaced.line = some "né info".toList := by decide +kernel
  have haccented : text.line? accented.line = some "état".toList := by decide +kernel
  obtain ⟨-, hfound⟩ := a_run_is_the_word_unless_a_wide_character_precedes_it
    hspaced (by decide +kernel)
  obtain ⟨-, hmissed⟩ := a_run_is_the_word_unless_a_wide_character_precedes_it
    haccented (by decide +kernel)
  refine ⟨hspaced, ?_, haccented, ?_⟩
  · rw [hfound "né ".toList "info".toList [] (by decide +kernel), if_pos (by decide +kernel)]
    rfl
  · rw [hmissed "é".toList "tat".toList [] (by decide +kernel), if_neg (by decide +kernel)]

/-- The cursor is in the midst of a run, and there is no word. -/
theorem a_run_behind_a_wide_character_is_missed :
    let line : Text := "éinfo".toList
    line.line? 0 = some line ∧ line.Touches (line.columnOctet 3) ∧
    RunAt line (line.columnOctet 3) "é".toList "info".toList [] ∧ line.wordAt? ⟨0, 3⟩ = none := by
  decide +kernel

end Text

end DelugeAssist
