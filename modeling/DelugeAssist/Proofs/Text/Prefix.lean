-- Cuts of a text by its prefixes. An octet offset between two characters is the length of one
-- prefix, so what is taken, dropped or replaced at such offsets can be said with `++` alone.

import DelugeAssist.Text.Measure

namespace DelugeAssist

namespace Text

/-! ## The two lengths -/

theorem unitsOf_pos (c : Char) : 0 < unitsOf c := by
  unfold unitsOf
  split <;> omega

@[simp] theorem octets_nil : octets [] = 0 := rfl

@[simp] theorem octets_cons (c : Char) (rest : Text) :
    octets (c :: rest) = c.utf8Size + octets rest := rfl

@[simp] theorem units_nil : units [] = 0 := rfl

@[simp] theorem units_cons (c : Char) (rest : Text) :
    units (c :: rest) = unitsOf c + units rest := rfl

@[simp] theorem octets_append (first second : Text) :
    octets (first ++ second) = octets first + octets second := by
  induction first with
  | nil => simp
  | cons c rest ih => simp only [List.cons_append, octets_cons, ih]; omega

@[simp] theorem units_append (first second : Text) :
    units (first ++ second) = units first + units second := by
  induction first with
  | nil => simp
  | cons c rest ih => simp only [List.cons_append, units_cons, ih]; omega

theorem octets_eq_zero {text : Text} : octets text = 0 ↔ text = [] := by
  cases text with
  | nil => simp
  | cons c rest =>
    have := c.utf8Size_pos
    simp only [octets_cons, reduceCtorEq, iff_false]
    omega

/-- A character takes no more units than octets. -/
theorem units_le_octets (text : Text) : units text ≤ octets text := by
  induction text with
  | nil => simp
  | cons c rest ih =>
    have hc : unitsOf c ≤ c.utf8Size := by
      have := c.utf8Size_pos
      unfold unitsOf
      split
      · omega
      · rename_i h
        have hv : ¬ c.val ≤ 0xFFFF := fun hle => h (UInt32.le_iff_toNat_le.mp hle)
        have h1 : ¬ c.val ≤ 0x7F := fun hle => hv (UInt32.le_trans hle (by decide))
        have h2 : ¬ c.val ≤ 0x7FF := fun hle => hv (UInt32.le_trans hle (by decide))
        simp [Char.utf8Size, h1, h2, hv]
    simp only [units_cons, octets_cons]
    omega

theorem length_le_octets (text : Text) : text.length ≤ octets text := by
  induction text with
  | nil => exact Nat.le_refl 0
  | cons c rest ih =>
    have := c.utf8Size_pos
    rw [List.length_cons, octets_cons]
    omega

/-! ## Cutting at the end of a prefix -/

@[simp] theorem takeOctets_octets_append (before after : Text) :
    takeOctets (octets before) (before ++ after) = before := by
  induction before with
  | nil =>
    cases after with
    | nil => rfl
    | cons c rest =>
      have := c.utf8Size_pos
      simp only [List.nil_append, octets_nil, takeOctets]
      rw [if_neg (by omega)]
  | cons c rest ih =>
    simp only [List.cons_append, octets_cons, takeOctets]
    rw [if_pos (by omega), Nat.add_sub_cancel_left, ih]

theorem takeOctets_of_isPrefix {before text : Text} (h : before <+: text) :
    text.takeOctets (octets before) = before := by
  obtain ⟨after, rfl⟩ := h
  exact takeOctets_octets_append before after

@[simp] theorem dropOctets_octets_append (before after : Text) :
    dropOctets (octets before) (before ++ after) = after := by
  have h := takeOctets_append_dropOctets (octets before) (before ++ after)
  rw [takeOctets_octets_append] at h
  exact List.append_cancel_left h

theorem isBoundary_octets_append (before after : Text) :
    isBoundary (before ++ after) (octets before) = true := by
  rw [isBoundary_iff, takeOctets_octets_append]

theorem isBoundary_iff_isPrefix {text : Text} {n : Nat} :
    text.isBoundary n = true ↔ ∃ before, before <+: text ∧ octets before = n := by
  constructor
  · intro h
    refine ⟨text.takeOctets n, ⟨text.dropOctets n, ?_⟩, isBoundary_iff.mp h⟩
    exact takeOctets_append_dropOctets n text
  · rintro ⟨before, ⟨after, rfl⟩, rfl⟩
    exact isBoundary_octets_append before after

theorem slice_append (before middle after : Text) :
    slice (octets before) (octets before + octets middle) (before ++ middle ++ after) = middle := by
  unfold slice
  rw [← octets_append, takeOctets_octets_append, dropOctets_octets_append]

theorem splice_append (before middle after inserted : Text) :
    splice (before ++ middle ++ after) (octets before) (octets before + octets middle) inserted =
      before ++ inserted ++ after := by
  unfold splice
  rw [← octets_append, dropOctets_octets_append, List.append_assoc before middle after,
    takeOctets_octets_append]

/-! ## Cutting inside a character -/

theorem octets_takeOctets_le (n : Nat) (text : Text) : octets (text.takeOctets n) ≤ n := by
  induction text generalizing n with
  | nil => exact Nat.zero_le n
  | cons c rest ih =>
    unfold takeOctets
    split
    · have := ih (n - c.utf8Size)
      rw [octets_cons]
      omega
    · exact Nat.zero_le n

/-- What a cut at an offset leaves begins with a character that reaches over the offset. -/
theorem lt_of_dropOctets_eq_cons {n : Nat} {text rest : Text} {c : Char}
    (h : text.dropOctets n = c :: rest) : n < octets (text.takeOctets n) + c.utf8Size := by
  induction text generalizing n with
  | nil => cases h
  | cons d more ih =>
    unfold dropOctets at h
    unfold takeOctets
    split
    · rename_i hd
      rw [if_pos hd] at h
      have := ih h
      rw [octets_cons]
      omega
    · rename_i hd
      rw [if_neg hd] at h
      obtain ⟨rfl, rfl⟩ := List.cons.inj h
      rw [octets_nil]
      omega

/-! ## Prefixes of one text -/

/-- Of two prefixes of a text, the one of fewer octets is a prefix of the other. -/
theorem isPrefix_of_octets_le {shorter longer text : Text} (hs : shorter <+: text)
    (hl : longer <+: text) (h : octets shorter ≤ octets longer) : shorter <+: longer := by
  rcases List.prefix_or_prefix_of_prefix hs hl with hp | ⟨rest, rfl⟩
  · exact hp
  · have hrest : rest = [] := octets_eq_zero.mp (by simp only [octets_append] at h; omega)
    simp [hrest]

theorem octets_le_of_isPrefix {shorter longer : Text} (h : shorter <+: longer) :
    octets shorter ≤ octets longer := by
  obtain ⟨rest, rfl⟩ := h
  simp

theorem le_octets_of_isBoundary {text : Text} {n : Nat} (h : text.isBoundary n = true) :
    n ≤ text.octets := by
  obtain ⟨before, hbefore, rfl⟩ := isBoundary_iff_isPrefix.mp h
  exact octets_le_of_isPrefix hbefore

end Text

end DelugeAssist
