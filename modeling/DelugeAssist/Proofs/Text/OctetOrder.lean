-- The order of texts by their octets. UTF-8 keeps the order of characters: texts compare octet by
-- octet as they do character by character.

import DelugeAssist.Text.Utf8
import Mathlib.Tactic.SplitIfs

namespace DelugeAssist

namespace Utf8

theorem cons_toUInt8_lt_iff {m n : Nat} (hm : m < 256) (hn : n < 256) (x y : List UInt8) :
    m.toUInt8 :: x < n.toUInt8 :: y ↔ m < n ∨ m = n ∧ x < y := by
  have hvalue {k : Nat} (hk : k < 256) : k.toUInt8.toNat = k := by
    simp [Nat.mod_eq_of_lt hk]
  rw [List.cons_lt_cons_iff, UInt8.lt_iff_toNat_lt, ← UInt8.toNat_inj, hvalue hm, hvalue hn]

theorem toNat_lt (c : Char) : c.toNat < 0x110000 := by
  rcases c.valid with hlow | hhigh
  · exact Nat.lt_trans hlow (by decide)
  · exact hhigh.2

/-- Of two characters the lesser one has the lesser octets, whatever follows them. -/
theorem encodeChar_append_lt {c d : Char} (h : c < d) (x y : List UInt8) :
    encodeChar c ++ x < encodeChar d ++ y := by
  have hcd : c.toNat < d.toNat := UInt32.lt_iff_toNat_lt.mp (Char.lt_def.mp h)
  have hd := toNat_lt d
  unfold encodeChar
  generalize c.toNat = m at hcd
  generalize d.toNat = n at hcd hd
  simp only
  -- One case for each pair of lengths: a character of fewer octets begins with a lesser one, and
  -- octets as many as each other compare as digits do.
  split_ifs
  all_goals simp (disch := omega) only [List.cons_append, List.nil_append, cons_toUInt8_lt_iff]
  all_goals omega

theorem encodeChar_ne_nil (c : Char) : encodeChar c ≠ [] := by
  unfold encodeChar
  simp only
  split_ifs
  all_goals exact List.cons_ne_nil _ _

theorem encode_lt_of_lt {first second : Text} (h : first < second) :
    encode first < encode second := by
  induction h with
  | nil =>
    rename_i c rest
    obtain ⟨octet, more, hc⟩ := List.exists_cons_of_ne_nil (encodeChar_ne_nil c)
    simp only [encode, List.flatMap_nil, List.flatMap_cons, hc, List.cons_append]
    exact List.nil_lt_cons octet _
  | cons _ ih => exact List.append_left_lt ih
  | rel hlt => exact encodeChar_append_lt hlt _ _

theorem encode_lt_iff {first second : Text} : encode first < encode second ↔ first < second := by
  constructor
  · intro h
    rcases Std.lt_trichotomy first second with hlt | rfl | hgt
    · exact hlt
    · exact absurd h (List.lt_irrefl _)
    · exact absurd (encode_lt_of_lt hgt) (List.lt_asymm h)
  · exact encode_lt_of_lt

end Utf8

end DelugeAssist
