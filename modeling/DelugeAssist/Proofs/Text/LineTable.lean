-- The table of the places where lines start. Behind the beginning of the text it lists the places
-- right behind a line feed, each once and in order, also when the text is looked at octet by octet.

import DelugeAssist.Proofs.Text.OctetOrder
import DelugeAssist.Proofs.Text.Place

namespace DelugeAssist

/-! ## Feeds among the octets -/

namespace Utf8

theorem length_encodeChar (c : Char) : (encodeChar c).length = c.utf8Size := by
  have hsize : c.utf8Size = if c.toNat < 0x80 then 1 else if c.toNat < 0x800 then 2
      else if c.toNat < 0x10000 then 3 else 4 := by
    simp only [Char.utf8Size, UInt32.le_iff_toNat_le, ← Nat.lt_succ_iff]
    rfl
  rw [hsize]
  unfold encodeChar
  simp only
  split_ifs <;> rfl

/-- An octet below 0x80 is a character of its own and no part of another. -/
theorem toNat_of_mem_encodeChar {c : Char} {octet : UInt8} (h : octet ∈ encodeChar c)
    (hlow : octet.toNat < 0x80) : c.toNat = octet.toNat := by
  have hc := toNat_lt c
  unfold encodeChar at h
  generalize c.toNat = n at h hc
  simp only at h
  split_ifs at h
  all_goals simp only [List.mem_cons, List.not_mem_nil, or_false, ← UInt8.toNat_inj,
    Nat.toUInt8_eq, UInt8.toNat_ofNat'] at h
  all_goals omega

theorem encode_cons (c : Char) (rest : Text) : encode (c :: rest) = encodeChar c ++ encode rest :=
  List.flatMap_cons

theorem encode_append (first second : Text) :
    encode (first ++ second) = encode first ++ encode second := List.flatMap_append

theorem length_encode (text : Text) : (encode text).length = text.octets := by
  induction text with
  | nil => rfl
  | cons c rest ih => rw [encode_cons, List.length_append, length_encodeChar, ih, Text.octets_cons]

/-- An octet is a line feed just where a line feed of the text begins. -/
theorem getElem?_encode_eq_feed_iff {text : Text} {place : Nat} :
    (encode text)[place]? = some 0x0A ↔
      ∃ before after, text = before ++ '\n' :: after ∧ Text.octets before = place := by
  constructor
  · intro h
    induction text generalizing place with
    | nil => simp [encode] at h
    | cons c rest ih =>
      rw [encode_cons] at h
      rcases Nat.lt_or_ge place (encodeChar c).length with hin | hbehind
      · -- A feed among the octets of `c` is all of `c`, so it is its first octet.
        rw [List.getElem?_append_left hin] at h
        have hfeed : c.toNat = '\n'.toNat :=
          toNat_of_mem_encodeChar (List.mem_of_getElem? h) (by decide)
        obtain rfl : c = '\n' := Char.toNat_inj.mp hfeed
        have hone : (encodeChar '\n').length = 1 := by decide
        exact ⟨[], rest, rfl, by rw [Text.octets_nil]; omega⟩
      · rw [List.getElem?_append_right hbehind] at h
        obtain ⟨before, after, rfl, hplace⟩ := ih h
        rw [length_encodeChar] at hbehind hplace
        exact ⟨c :: before, after, rfl, by rw [Text.octets_cons]; omega⟩
  · rintro ⟨before, after, rfl, rfl⟩
    rw [encode_append, ← length_encode, List.getElem?_append_right (Nat.le_refl _), Nat.sub_self,
      encode_cons]
    rfl

end Utf8

namespace Text

/-! ## What the table lists -/

/-- The table lists the places right behind a line feed. -/
theorem mem_startsAfter_iff {offset start : Nat} {text : Text} :
    start ∈ startsAfter offset text ↔
      ∃ before after, text = before ++ '\n' :: after ∧
        start = offset + octets (before ++ ['\n']) := by
  constructor
  · intro h
    induction text generalizing offset with
    | nil => simp [startsAfter] at h
    | cons c rest ih =>
      unfold startsAfter at h
      have hrest (hmem : start ∈ startsAfter (offset + c.utf8Size) rest) :
          ∃ before after, c :: rest = before ++ '\n' :: after ∧
            start = offset + octets (before ++ ['\n']) := by
        obtain ⟨before, after, rfl, rfl⟩ := ih hmem
        exact ⟨c :: before, after, rfl, by rw [List.cons_append, octets_cons, Nat.add_assoc]⟩
      split at h
      · rename_i hc
        rcases List.mem_cons.mp h with rfl | hmem
        · exact ⟨[], rest, by rw [hc]; rfl, by rw [hc]; rfl⟩
        · exact hrest hmem
      · exact hrest h
  · rintro ⟨before, after, rfl, rfl⟩
    rw [startsAfter_append, List.mem_append]
    right
    rw [startsAfter, if_pos rfl, octets_append, octets_cons, octets_nil, Nat.add_zero,
      Nat.add_assoc]
    exact List.mem_cons_self

theorem mem_lineStarts_iff {start : Nat} {text : Text} :
    start ∈ text.lineStarts ↔ start = 0 ∨
      ∃ before after, text = before ++ '\n' :: after ∧ start = octets (before ++ ['\n']) := by
  rw [lineStarts, List.mem_cons, mem_startsAfter_iff]
  simp only [Nat.zero_add]

/-- Behind the beginning, the table lists the places behind an octet that is a line feed. -/
theorem mem_lineStarts_iff_octet {start : Nat} {text : Text} (h : 0 < start) :
    start ∈ text.lineStarts ↔
      start ≤ octets text ∧ (Utf8.encode text)[start - 1]? = some 0x0A := by
  have hfeed (before : Text) : octets (before ++ ['\n']) = octets before + 1 := octets_append _ _
  rw [mem_lineStarts_iff, or_iff_right (Nat.ne_of_gt h), Utf8.getElem?_encode_eq_feed_iff]
  simp only [hfeed]
  constructor
  · rintro ⟨before, after, rfl, rfl⟩
    refine ⟨?_, before, after, rfl, rfl⟩
    rw [octets_append, octets_cons]
    have hone : '\n'.utf8Size = 1 := by decide
    omega
  · rintro ⟨-, before, after, htext, hplace⟩
    exact ⟨before, after, htext, by omega⟩

/-! ## The order of the table -/

theorem pairwise_startsAfter (offset : Nat) (text : Text) :
    (startsAfter offset text).Pairwise (· < ·) := by
  induction text generalizing offset with
  | nil => exact List.Pairwise.nil
  | cons c rest ih =>
    unfold startsAfter
    split
    · rw [List.pairwise_cons]
      refine ⟨?_, ih _⟩
      intro start hstart
      exact (le_octets_of_mem_startsAfter hstart).1
    · exact ih _

theorem pairwise_lineStarts (text : Text) : text.lineStarts.Pairwise (· < ·) := by
  rw [lineStarts, List.pairwise_cons]
  refine ⟨?_, pairwise_startsAfter 0 text⟩
  intro start hstart
  exact (le_octets_of_mem_startsAfter hstart).1

theorem isBoundary_of_mem_lineStarts {start : Nat} {text : Text} (h : start ∈ text.lineStarts) :
    text.isBoundary start = true := by
  rcases mem_lineStarts_iff.mp h with rfl | ⟨before, after, rfl, rfl⟩
  · cases text <;> rfl
  · rw [← List.singleton_append, ← List.append_assoc]
    exact isBoundary_octets_append _ _

end Text

end DelugeAssist
