-- The order of sort texts. A place is written in four digits, so as long as four are enough the
-- texts stand in the order of the places, octet by octet: an editor that sorts a list of items by
-- them shows the order of the table.

import DelugeAssist.Proofs.Completion.Trigger
import DelugeAssist.Proofs.Text.OctetOrder
import Mathlib.Algebra.Group.Nat.Defs

namespace DelugeAssist

namespace Completion

/-! ## Digits -/

/-- The last digits of a number, as many as `width` says. -/
def lastDigits : Nat → Nat → List Char
  | 0, _ => []
  | width + 1, n => lastDigits width (n / 10) ++ [Nat.digitChar (n % 10)]

@[simp] theorem length_lastDigits (width n : Nat) : (lastDigits width n).length = width := by
  induction width generalizing n with
  | zero => rfl
  | succ width ih => rw [lastDigits, List.length_append, ih, List.length_singleton]

theorem lastDigits_zero (width : Nat) : lastDigits width 0 = List.replicate width '0' := by
  induction width with
  | zero => rfl
  | succ width ih => rw [lastDigits, Nat.zero_div, ih, List.replicate_succ']; rfl

theorem leftpad_concat (width : Nat) (a c : Char) (digits : List Char) :
    List.leftpad (width + 1) a (digits ++ [c]) = List.leftpad width a digits ++ [c] := by
  simp [List.leftpad, Nat.add_sub_add_right]

/-- Filled up with zeros in front, a number is its last digits, if there are no more of them. -/
theorem leftpad_toDigits {width n : Nat} (hwidth : 0 < width) (h : n < 10 ^ width) :
    List.leftpad width '0' (Nat.toDigits 10 n) = lastDigits width n := by
  induction width generalizing n with
  | zero => omega
  | succ width ih =>
    rw [Nat.toDigits_eq_if (by decide), lastDigits]
    split
    · rename_i hn
      rw [← List.nil_append [n.digitChar], leftpad_concat, Nat.div_eq_of_lt hn, lastDigits_zero,
        Nat.mod_eq_of_lt hn]
      simp [List.leftpad]
    · rename_i hn
      rw [leftpad_concat, ih]
      · apply Nat.pos_of_ne_zero
        rintro rfl
        exact hn h
      · rw [Nat.pow_succ] at h
        omega

theorem append_lt_append {first second : List Char} (h : first < second)
    (hlength : first.length = second.length) (x y : List Char) : first ++ x < second ++ y := by
  induction h with
  | nil => cases hlength
  | cons _ ih => exact List.Lex.cons (ih (Nat.succ.inj hlength))
  | rel hlt => exact List.Lex.rel hlt

theorem digitChar_lt {m n : Nat} (h : m < n) (hn : n < 10) : m.digitChar < n.digitChar := by
  have hm : m.digitChar.toNat = 48 + m := Nat.toNat_digitChar_of_lt_ten (h.trans hn)
  have hn : n.digitChar.toNat = 48 + n := Nat.toNat_digitChar_of_lt_ten hn
  rw [Char.lt_def, UInt32.lt_iff_toNat_lt]
  change m.digitChar.toNat < n.digitChar.toNat
  omega

/-- The digits of numbers stand in the order of the numbers. -/
theorem lastDigits_lt {width m n : Nat} (h : m < n) (hn : n < 10 ^ width) :
    lastDigits width m < lastDigits width n := by
  induction width generalizing m n with
  | zero =>
    rw [Nat.pow_zero] at hn
    omega
  | succ width ih =>
    rw [lastDigits, lastDigits]
    have hhead : n / 10 < 10 ^ width := by
      rw [Nat.pow_succ] at hn
      omega
    rcases Nat.lt_or_ge (m / 10) (n / 10) with hlt | hge
    · exact append_lt_append (ih hlt hhead) (by simp) _ _
    · have hsame : m / 10 = n / 10 := by omega
      rw [hsame]
      exact List.append_left_lt (List.Lex.rel (digitChar_lt (by omega) (by omega)))

/-- The sort text of a further place comes later. -/
theorem encode_sortText_lt {m n : Nat} (h : m < n) (hn : n < 10 ^ 4) :
    Utf8.encode (sortText m).toList < Utf8.encode (sortText n).toList := by
  rw [Utf8.encode_lt_iff, sortText, sortText, String.toList_ofList, String.toList_ofList,
    leftpad_toDigits (by decide) (h.trans hn), leftpad_toDigits (by decide) hn]
  exact lastDigits_lt h hn

/-! ## Items in order -/

/-- The item comes before the other where the octets of the sort texts are compared. -/
def Item.SortsBefore (first second : Item) : Prop :=
  Utf8.encode first.sortText.toList < Utf8.encode second.sortText.toList

instance : DecidableRel Item.SortsBefore := fun first second =>
  inferInstanceAs
    (Decidable (Utf8.encode first.sortText.toList < Utf8.encode second.sortText.toList))

/-- Items that are made from a table, each with its place, have the sort texts of the places. -/
theorem sortTexts_mapIdx {α : Type} {item : Nat → α → Item} (table : List α)
    (h : ∀ place a, (item place a).sortText = sortText place) :
    (table.mapIdx item).map (·.sortText) =
      (List.range (table.mapIdx item).length).map sortText := by
  apply List.ext_getElem
  · simp
  · intro place hleft hright
    simp [h]

/-- The sort texts of a list of items are those of its places. -/
theorem sortTexts_ofTrigger {options : Options} {trigger : Trigger} {list : List Item}
    (h : ofTrigger options trigger = some list) :
    list.map (·.sortText) = (List.range list.length).map sortText := by
  cases trigger with
  | namespaceRoot =>
    obtain rfl := Option.some.inj h
    exact sortTexts_mapIdx Suggestion.all fun _ _ => rfl
  | serviceScoped service =>
    obtain rfl := Option.some.inj h
    exact sortTexts_mapIdx service.methods fun _ _ => rfl
  | generic =>
    simp only [ofTrigger, Option.ite_none_right_eq_some, Option.some.injEq] at h
    obtain ⟨-, rfl⟩ := h
    exact sortTexts_mapIdx GenericWord.all fun _ _ => rfl

/-- No table has more than thirty-one entries. -/
theorem length_labels_le (trigger : Trigger) : trigger.labels.length ≤ 31 := by
  cases trigger with
  | namespaceRoot => decide
  | serviceScoped service => cases service <;> decide
  | generic => decide

theorem nodup_labels (trigger : Trigger) : trigger.labels.Nodup := by
  cases trigger with
  | namespaceRoot => decide
  | serviceScoped service => cases service <;> decide
  | generic => decide +kernel

theorem pairwise_ofTrigger {options : Options} {trigger : Trigger} {list : List Item}
    (h : ofTrigger options trigger = some list) : list.Pairwise Item.SortsBefore := by
  have hlength : list.length ≤ 31 := by
    rw [← List.length_map (·.label), labels_ofTrigger h]
    exact length_labels_le trigger
  have htexts : (list.map (·.sortText)).Pairwise
      fun first second => Utf8.encode first.toList < Utf8.encode second.toList := by
    rw [sortTexts_ofTrigger h, List.pairwise_map]
    refine List.pairwise_lt_range.imp_of_mem ?_
    intro m n _ hn hlt
    have := List.mem_range.mp hn
    exact encode_sortText_lt hlt (by omega)
  rw [List.pairwise_map] at htexts
  exact htexts

/-- Of two different items of a list in order, one comes before the other. -/
theorem eq_or_sortsBefore {list : List Item} (h : list.Pairwise Item.SortsBefore)
    {first second : Item} (hfirst : first ∈ list) (hsecond : second ∈ list) :
    first = second ∨ first.SortsBefore second ∨ second.SortsBefore first := by
  obtain ⟨m, hm, rfl⟩ := List.mem_iff_getElem.mp hfirst
  obtain ⟨n, hn, rfl⟩ := List.mem_iff_getElem.mp hsecond
  have horder := List.pairwise_iff_getElem.mp h
  rcases Nat.lt_trichotomy m n with hlt | rfl | hgt
  · exact .inr (.inl (horder m n hm hn hlt))
  · exact .inl rfl
  · exact .inr (.inr (horder n m hn hm hgt))

/-- A list in order is the only way to sort its items. -/
theorem eq_of_perm_of_sorted {list shown : List Item} (hlist : list.Pairwise Item.SortsBefore)
    (hperm : shown.Perm list)
    (hshown : shown.Pairwise fun first second => ¬ second.SortsBefore first) : shown = list := by
  have hsorted : list.Pairwise fun first second => ¬ second.SortsBefore first := by
    refine hlist.imp ?_
    intro first second hlt hgt
    exact List.lt_asymm hlt hgt
  refine List.Perm.eq_of_pairwise ?_ hshown hsorted hperm
  intro first second hfirst hsecond hnotAfter hnotBefore
  rcases eq_or_sortsBefore hlist (hperm.mem_iff.mp hfirst) hsecond with heq | hlt | hgt
  · exact heq
  · exact absurd hlt hnotBefore
  · exact absurd hgt hnotAfter

end Completion

end DelugeAssist
