-- Layers over one another. Each field is that of the last layer that is there and sets it, and it
-- does not matter which of the layers are merged first, as long as they keep their order.

import DelugeAssist.Proofs.Settings.Resolution

namespace DelugeAssist

namespace Layer

/-- The last of the layers that is there and sets the field sets it to the value. -/
def LastSets (layers : List (Option Layer)) (field : Settings.Field) (value : Bool) : Prop :=
  ∃ lower layer upper, layers = lower ++ some layer :: upper ∧ layer.get field = some value ∧
    ∀ above, some above ∈ upper → above.get field = none

/-- No layer sets the field. -/
def NoneSets (layers : List (Option Layer)) (field : Settings.Field) : Prop :=
  ∀ layer, some layer ∈ layers → layer.get field = none

/-! ## Which layers there are -/

theorem mergeAll_cons (first : Option Layer) (rest : List (Option Layer)) :
    mergeAll (first :: rest) = merge first (mergeAll rest) := by
  rw [← List.singleton_append, mergeAll_append, mergeAll_singleton]

theorem merge_eq_none_iff {lower upper : Option Layer} :
    merge lower upper = none ↔ lower = none ∧ upper = none := by
  cases lower <;> cases upper <;> simp [merge]

theorem mergeAll_eq_none_iff {layers : List (Option Layer)} :
    mergeAll layers = none ↔ ∀ layer ∈ layers, layer = none := by
  induction layers with
  | nil => simp [mergeAll]
  | cons first rest ih => rw [mergeAll_cons, merge_eq_none_iff, ih, List.forall_mem_cons]

/-! ## Which layer decides a field -/

/-- A layer that is not there sets no field. -/
theorem bind_get_eq_none_iff {layer : Option Layer} {field : Settings.Field} :
    layer.bind (·.get field) = none ↔ ∀ there, layer = some there → there.get field = none := by
  cases layer <;> simp

theorem noneSets_iff {layers : List (Option Layer)} {field : Settings.Field} :
    NoneSets layers field ↔ ∀ layer ∈ layers, layer.bind (·.get field) = none := by
  constructor
  · rintro hnone layer hmem
    refine bind_get_eq_none_iff.mpr ?_
    rintro there rfl
    exact hnone there hmem
  · intro hnone layer hmem
    exact bind_get_eq_none_iff.mp (hnone (some layer) hmem) layer rfl

theorem bind_get_mergeAll_eq_none_iff {layers : List (Option Layer)} {field : Settings.Field} :
    (mergeAll layers).bind (·.get field) = none ↔ NoneSets layers field := by
  simp only [get_mergeAll, List.findSome?_eq_none_iff, List.mem_reverse, noneSets_iff]

theorem bind_get_mergeAll_eq_some_iff {layers : List (Option Layer)} {field : Settings.Field}
    {value : Bool} :
    (mergeAll layers).bind (·.get field) = some value ↔ LastSets layers field value := by
  rw [get_mergeAll, List.findSome?_eq_some_iff]
  constructor
  · rintro ⟨upper, _ | layer, lower, hlayers, hvalue, hupper⟩
    · cases hvalue
    · refine ⟨lower.reverse, layer, upper.reverse, ?_, hvalue, ?_⟩
      · simpa using congrArg List.reverse hlayers
      · exact noneSets_iff.mpr fun above hmem => hupper above (List.mem_reverse.mp hmem)
  · rintro ⟨lower, layer, upper, rfl, hvalue, hupper⟩
    refine ⟨upper.reverse, some layer, lower.reverse, by simp, hvalue, ?_⟩
    intro above hmem
    exact noneSets_iff.mp hupper above (List.mem_reverse.mp hmem)

/-! ## Groups of layers -/

theorem mergeAll_flatten (groups : List (List (Option Layer))) :
    mergeAll groups.flatten = mergeAll (groups.map mergeAll) := by
  induction groups with
  | nil => rfl
  | cons group rest ih =>
    rw [List.flatten_cons, mergeAll_append, ih, List.map_cons, mergeAll_cons]

/-- Merged layers are missing just if all of them are. Otherwise a field has the value of the last
layer that is there and sets it, and is not set where none does. To merge layers is to lay each onto
those before it in turn; it may as well be done part by part, with the merged parts merged in the
end, however the layers are parted and also where a part has no layers. -/
theorem the_last_layer_to_set_a_field_decides_it :
    (∀ layers, mergeAll layers = none ↔ ∀ layer ∈ layers, layer = none) ∧
    (∀ layers merged, mergeAll layers = some merged → ∀ field,
      (∀ value, merged.get field = some value ↔ LastSets layers field value) ∧
      (merged.get field = none ↔ NoneSets layers field)) ∧
    (∀ first rest, mergeAll (first :: rest) = rest.foldl merge first) ∧
    (∀ lower upper, mergeAll (lower ++ upper) = merge (mergeAll lower) (mergeAll upper)) ∧
    (∀ groups : List (List (Option Layer)),
      mergeAll groups.flatten = mergeAll (groups.map mergeAll)) := by
  refine ⟨fun _ => mergeAll_eq_none_iff, ?_, ?_, mergeAll_append, mergeAll_flatten⟩
  · intro layers merged hmerged field
    have hget : merged.get field = (mergeAll layers).bind (·.get field) := by
      rw [hmerged, Option.bind_some]
    rw [hget]
    exact ⟨fun value => bind_get_mergeAll_eq_some_iff, bind_get_mergeAll_eq_none_iff⟩
  · intro first rest
    rw [foldl_merge, mergeAll_cons]

/-- A layer that sets nothing lies over one that is missing and one that sets two fields, and the
layer on top of it sets one of the two. -/
theorem an_empty_layer_between_others_decides_nothing :
    let lower : List (Option Layer) := [some ⟨some true, none, some true⟩, none]
    let upper : List (Option Layer) := [some {}, some ⟨none, none, some false⟩, none]
    let merged : Layer := ⟨some true, none, some false⟩
    mergeAll (lower ++ upper) = some merged ∧
    LastSets (lower ++ upper) .snippets true ∧ NoneSets (lower ++ upper) .hover ∧
    LastSets (lower ++ upper) .genericCompletions false ∧
    merge (mergeAll lower) (mergeAll upper) = some merged ∧
    mergeAll [mergeAll lower, mergeAll [], mergeAll upper] = some merged ∧
    mergeAll [none, some {}] ≠ none ∧ mergeAll [none, none] = none := by
  intro lower upper merged
  obtain ⟨hmissing, hfields, -, happend, hgroups⟩ := the_last_layer_to_set_a_field_decides_it
  have hmerged : mergeAll (lower ++ upper) = some merged := by decide
  have hdecided := hfields (lower ++ upper) merged hmerged
  refine ⟨hmerged, ((hdecided .snippets).1 true).mp rfl, (hdecided .hover).2.mp rfl,
    ((hdecided .genericCompletions).1 false).mp rfl, ?_, ?_, ?_, ?_⟩
  · rw [← happend, hmerged]
  · exact (hgroups [lower, [], upper]).symm.trans hmerged
  · rw [ne_eq, hmissing]
    decide
  · exact (hmissing [none, none]).mpr (by simp)

end Layer

end DelugeAssist
