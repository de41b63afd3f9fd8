-- What a trigger looks at. No ending that asks for something holds a line feed, so whole lines
-- above the cursor's line make no difference to what is asked for there.

import DelugeAssist.Proofs.Completion.Method
import DelugeAssist.Proofs.Text.Concatenation

namespace DelugeAssist

namespace Trigger

theorem feed_notMem_ending {trigger : Trigger} {ending : Text} (h : ending ∈ trigger.ending?) :
    '\n' ∉ ending := by
  cases trigger with
  | namespaceRoot =>
    rw [← Option.mem_some_iff.mp h]
    decide
  | serviceScoped service =>
    have hroot : '\n' ∉ rootEnding := by decide
    rw [← Option.mem_some_iff.mp h]
    simp [scopedEnding, hroot, service.feed_notMem_identifier]
  | generic => cases h

/-- Whole lines above the cursor's line do not count. -/
theorem ofText_above {above : Text} (hends : above.EndsLine) (part : Text) :
    ofText (above ++ part) = ofText part := by
  rcases Text.endsLine_iff.mp hends with rfl | ⟨more, rfl⟩
  · rfl
  · rw [List.append_assoc, List.singleton_append]
    apply ofText_congr
    intro trigger
    apply exists_congr
    intro ending
    apply and_congr_right
    intro hending
    exact Text.suffix_behind_iff (feed_notMem_ending hending) more part

/-! ## Labels -/

/-- The labels that a trigger leads to, in order. -/
def labels : Trigger → List String
  | .namespaceRoot => Suggestion.all.map (·.service.identifier)
  | .serviceScoped service => service.methods.map (·.name)
  | .generic => GenericWord.all.map (·.name)

/-- A label stands on one line. -/
theorem feed_notMem_labels (trigger : Trigger) :
    ∀ label ∈ trigger.labels, '\n' ∉ label.toList := by
  intro label hlabel
  cases trigger with
  | namespaceRoot =>
    obtain ⟨suggestion, -, rfl⟩ := List.mem_map.mp hlabel
    exact suggestion.service.feed_notMem_identifier
  | serviceScoped service =>
    obtain ⟨method, hmethod, rfl⟩ := List.mem_map.mp hlabel
    exact (Method.plain_of_mem hmethod).feedless _ (by simp)
  | generic =>
    have hall : ∀ word ∈ GenericWord.all, '\n' ∉ word.name.toList := by decide +kernel
    obtain ⟨word, hword, rfl⟩ := List.mem_map.mp hlabel
    exact hall word hword

end Trigger

namespace Completion

theorem labels_serviceItems :
    serviceItems.map (·.label) = Trigger.labels .namespaceRoot := by
  simp only [serviceItems, Trigger.labels]
  apply map_mapIdx_of_mem
  intro place a _
  rfl

theorem labels_methodItems (service : Service) (snippets : Bool) :
    (methodItems service snippets).map (·.label) = Trigger.labels (.serviceScoped service) := by
  simp only [methodItems, Trigger.labels]
  apply map_mapIdx_of_mem
  intro place a _
  rfl

theorem labels_genericItems : genericItems.map (·.label) = Trigger.labels .generic := by
  simp only [genericItems, Trigger.labels]
  apply map_mapIdx_of_mem
  intro place a _
  rfl

/-- The labels of the items come from the trigger alone. -/
theorem labels_ofTrigger {options : Options} {trigger : Trigger} {items : List Item}
    (h : ofTrigger options trigger = some items) : items.map (·.label) = trigger.labels := by
  cases trigger with
  | namespaceRoot =>
    rw [← Option.some.inj h, labels_serviceItems]
  | serviceScoped service =>
    rw [← Option.some.inj h, labels_methodItems]
  | generic =>
    simp only [ofTrigger] at h
    split at h
    · rw [← Option.some.inj h, labels_genericItems]
    · cases h

/-- With the words of the language switched on there is always a list. -/
theorem exists_ofTrigger (options : Options) (h : options.generic = true) (trigger : Trigger) :
    ∃ items, ofTrigger options trigger = some items := by
  cases trigger with
  | namespaceRoot => exact ⟨_, rfl⟩
  | serviceScoped service => exact ⟨_, rfl⟩
  | generic => exact ⟨genericItems, by simp [ofTrigger, h]⟩

end Completion

end DelugeAssist
