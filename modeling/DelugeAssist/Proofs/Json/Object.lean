-- What an object holds. It holds the last of the values given under a name, so the order of members
-- with different names does not show.

import DelugeAssist.Json.Value

namespace DelugeAssist

namespace Json

section Lookup

variable {V : Type}

theorem lookup_member (name key : String) (value : V) (rest : List (String × V)) :
    ((key, value) :: rest).lookup name = if name = key then some value else rest.lookup name := by
  by_cases h : name = key
  · simp [h]
  · simp [List.lookup_cons, beq_false_of_ne h, h]

/-- Members with different names hold the same in any order. -/
theorem lookup_eq_of_perm {first second : List (String × V)} (h : first.Perm second)
    (hkeys : (first.map (·.1)).Nodup) (name : String) :
    first.lookup name = second.lookup name := by
  induction h with
  | nil => rfl
  | cons member _ ih =>
    obtain ⟨key, value⟩ := member
    rw [List.map_cons, List.nodup_cons] at hkeys
    rw [lookup_member, lookup_member, ih hkeys.2]
  | swap second first rest =>
    obtain ⟨key, value⟩ := first
    obtain ⟨other, held⟩ := second
    have hne : other ≠ key := by
      rintro rfl
      simp at hkeys
    simp only [lookup_member]
    by_cases hname : name = other
    · rw [if_pos hname, if_neg (hname ▸ hne), if_pos hname]
    · rw [if_neg hname, if_neg hname]
  | trans hleft _ ihleft ihright =>
    rw [ihleft hkeys, ihright ((hleft.map (·.1)).nodup_iff.mp hkeys)]

end Lookup

theorem lookup_put (name key : String) (value : Json) (members : List (String × Json)) :
    (put key value members).lookup name =
      if name = key then some value else members.lookup name := by
  induction members with
  | nil => exact lookup_member name key value []
  | cons member rest ih =>
    obtain ⟨other, held⟩ := member
    unfold put
    split
    · exact lookup_member name key value ((other, held) :: rest)
    · split
      · rename_i hsame
        subst hsame
        rw [lookup_member, lookup_member]
        split
        · rfl
        · rfl
      · rename_i hother
        rw [lookup_member, lookup_member, ih]
        by_cases h : name = other
        · rw [if_pos h, if_pos h, if_neg (h ▸ Ne.symm hother)]
        · rw [if_neg h, if_neg h]

theorem lookup_foldl_put (name : String) (members kept : List (String × Json)) :
    (members.foldl (fun kept member => put member.1 member.2 kept) kept).lookup name =
      (members.reverse.lookup name).or (kept.lookup name) := by
  induction members generalizing kept with
  | nil => rfl
  | cons member rest ih =>
    rw [List.foldl_cons, ih, lookup_put, List.reverse_cons, List.lookup_append, Option.or_assoc,
      lookup_member]
    split
    · rfl
    · rfl

/-- An object holds under a name what its members hold there last. -/
theorem member?_object (name : String) (members : List (String × Json)) :
    (object members).member? name = members.reverse.lookup name := by
  rw [object, member?, lookup_foldl_put, List.lookup_nil, Option.or_none]

end Json

end DelugeAssist
