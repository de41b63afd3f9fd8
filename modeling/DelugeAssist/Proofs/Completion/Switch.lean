-- The switches of a completion list. One switch says what a method inserts and another whether
-- words of the language are offered; beside that the list for a text is one and the same, and its
-- sort texts keep it in order.

import DelugeAssist.Proofs.Completion.SortText
import Mathlib.Data.List.Sort

namespace DelugeAssist

namespace Completion

/-! ## What is inserted -/

/-- Only a method inserts anything but its label. -/
theorem insertion_of_mem {left : Text} {options : Options} {list : List Item} {item : Item}
    (hlist : items left options = some list) (hitem : item ∈ list) :
    item.insertion =
      if item.kind = .method then
        some (if options.snippets then ⟨item.label ++ "($1)", .snippet⟩
          else ⟨item.label ++ "()", .plain⟩)
      else none := by
  unfold items at hlist
  cases htrigger : Trigger.ofText left with
  | namespaceRoot =>
    rw [htrigger] at hlist
    obtain rfl := Option.some.inj hlist
    obtain ⟨place, hplace, rfl⟩ := List.mem_mapIdx.mp hitem
    rfl
  | serviceScoped service =>
    rw [htrigger] at hlist
    obtain rfl := Option.some.inj hlist
    obtain ⟨place, hplace, rfl⟩ := List.mem_mapIdx.mp hitem
    rfl
  | generic =>
    rw [htrigger] at hlist
    simp only [ofTrigger, Option.ite_none_right_eq_some, Option.some.injEq] at hlist
    obtain ⟨-, rfl⟩ := hlist
    obtain ⟨place, hplace, rfl⟩ := List.mem_mapIdx.mp hitem
    cases hkind : GenericWord.all[place].kind with
    | keyword => simp [genericItem, hkind]
    | function => simp [genericItem, hkind]

/-- An item without what it inserts. -/
def Item.bare (item : Item) : Item := { item with insertion := none }

/-- But for what is inserted, the items come from the trigger alone. -/
theorem map_bare_ofTrigger {trigger : Trigger} {first second : Options} {a b : List Item}
    (ha : ofTrigger first trigger = some a) (hb : ofTrigger second trigger = some b) :
    a.map Item.bare = b.map Item.bare := by
  cases trigger with
  | namespaceRoot => rw [← Option.some.inj ha, ← Option.some.inj hb]
  | serviceScoped service =>
    rw [← Option.some.inj ha, ← Option.some.inj hb, methodItems, methodItems,
      List.mapIdx_eq_zipIdx_map, List.mapIdx_eq_zipIdx_map, List.map_map, List.map_map]
    rfl
  | generic =>
    simp only [ofTrigger, Option.ite_none_right_eq_some, Option.some.injEq] at ha hb
    rw [← ha.2, ← hb.2]

/-! ## Whether there is a list -/

theorem ofTrigger_eq_none_iff {trigger : Trigger} {options : Options} :
    ofTrigger options trigger = none ↔ trigger = .generic ∧ options.generic = false := by
  cases trigger with
  | namespaceRoot => simp [ofTrigger]
  | serviceScoped service => simp [ofTrigger]
  | generic => simp [ofTrigger]

theorem ofTrigger_generic_switch {trigger : Trigger} (h : trigger ≠ .generic) (options : Options)
    (generic : Bool) :
    ofTrigger { options with generic := generic } trigger = ofTrigger options trigger := by
  cases trigger with
  | namespaceRoot => rfl
  | serviceScoped service => rfl
  | generic => exact absurd rfl h

/-! ## Two lists for one text -/

variable {left : Text} {first second : Options} {a b : List Item}

theorem length_items_eq (ha : items left first = some a) (hb : items left second = some b) :
    a.length = b.length := by
  have hbare := congrArg List.length (map_bare_ofTrigger ha hb)
  rwa [List.length_map, List.length_map] at hbare

/-- The items in one place of two lists are the same but for what a method inserts, and that is
another one just if the lists were made with snippets on and off. -/
theorem bare_eq_and_insertion_ne_iff (ha : items left first = some a)
    (hb : items left second = some b) {place : Nat} {x y : Item} (hx : a[place]? = some x)
    (hy : b[place]? = some y) :
    x.bare = y.bare ∧
      (x.insertion ≠ y.insertion ↔ x.kind = .method ∧ first.snippets ≠ second.snippets) := by
  have hbare : x.bare = y.bare := by
    have hplace := congrArg (·[place]?) (map_bare_ofTrigger ha hb)
    simpa [hx, hy] using hplace
  have hlabel : x.label = y.label := (congrArg Item.label hbare :)
  have hkind : x.kind = y.kind := (congrArg Item.kind hbare :)
  refine ⟨hbare, ?_⟩
  rw [insertion_of_mem ha (List.mem_of_getElem? hx), insertion_of_mem hb (List.mem_of_getElem? hy),
    hlabel, hkind]
  by_cases hmethod : y.kind = .method
  · cases first.snippets <;> cases second.snippets <;> simp [hmethod]
  · simp [hmethod]

/-- For a text left of the cursor there is no list just where words of the language would be
offered and are switched off, and that switch counts for nothing else. Two lists for one text are
as long as each other and agree in each place, but that a method inserts its name with a place for
the arguments where snippets are on, and its name with empty brackets as plain text where they are
off. The labels of a list are those of the table in the order of the table, and none is there twice;
sorting the list by the octets of the sort texts, in whichever way, leaves it as it is. -/
theorem the_switches_change_only_what_they_are_for (left : Text) :
    (∀ options, items left options = none ↔
      Trigger.ofText left = .generic ∧ options.generic = false) ∧
    (Trigger.ofText left ≠ .generic → ∀ options generic,
      items left { options with generic := generic } = items left options) ∧
    (∀ first second a b, items left first = some a → items left second = some b →
      a.length = b.length ∧
      ∀ (place : Nat) (x y : Item), a[place]? = some x → b[place]? = some y →
        x.bare = y.bare ∧
        (x.insertion ≠ y.insertion ↔ x.kind = .method ∧ first.snippets ≠ second.snippets)) ∧
    (∀ options list, items left options = some list →
      (∀ item ∈ list, item.insertion =
        if item.kind = .method then
          some (if options.snippets then ⟨item.label ++ "($1)", .snippet⟩
            else ⟨item.label ++ "()", .plain⟩)
        else none) ∧
      list.map (·.label) = (Trigger.ofText left).labels ∧ (list.map (·.label)).Nodup ∧
      list.Pairwise Item.SortsBefore ∧
      ∀ shown, shown.Perm list →
        (shown.Pairwise fun first second => ¬ second.SortsBefore first) → shown = list) := by
  refine ⟨fun options => ofTrigger_eq_none_iff, ?_, ?_, ?_⟩
  · intro htrigger options generic
    exact ofTrigger_generic_switch htrigger options generic
  · intro first second a b ha hb
    refine ⟨length_items_eq ha hb, ?_⟩
    intro place x y hx hy
    exact bare_eq_and_insertion_ne_iff ha hb hx hy
  · intro options list hlist
    have hsorted : list.Pairwise Item.SortsBefore := pairwise_ofTrigger hlist
    have hlabels : list.map (·.label) = (Trigger.ofText left).labels := labels_ofTrigger hlist
    refine ⟨fun item hitem => insertion_of_mem hlist hitem, hlabels, ?_, hsorted, ?_⟩
    · rw [hlabels]
      exact nodup_labels _
    · intro shown hperm hshown
      exact eq_of_perm_of_sorted hsorted hperm hshown

/-- The methods of a service behind a letter of two octets, with every switch on and with every
switch off, and sorted again from the last to the first. -/
theorem the_switches_change_what_methods_insert :
    let left : Text := "é = zoho.ai.".toList
    let on : Options := ⟨true, true⟩
    let off : Options := ⟨false, false⟩
    items left { off with generic := true } = items left off ∧
      ∃ a b x y, items left on = some a ∧ items left off = some b ∧
        a.length = b.length ∧ a[6]? = some x ∧ b[6]? = some y ∧
        x.bare = y.bare ∧ x.insertion ≠ y.insertion ∧
        x.insertion = some ⟨"predictLanguage($1)", .snippet⟩ ∧
        y.insertion = some ⟨"predictLanguage()", .plain⟩ ∧
        a.reverse.insertionSort (fun first second => ¬ second.SortsBefore first) = a := by
  intro left on off
  have htrigger : Trigger.ofText left = .serviceScoped .ai := by decide
  obtain ⟨-, hgeneric, htwo, hone⟩ := the_switches_change_only_what_they_are_for left
  let a := methodItems .ai true
  let b := methodItems .ai false
  have ha : items left on = some a := by
    rw [items, htrigger]
    rfl
  have hb : items left off = some b := by
    rw [items, htrigger]
    rfl
  let x := methodItem .ai true 6 Method.aiTable[6]
  let y := methodItem .ai false 6 Method.aiTable[6]
  have hx : a[6]? = some x := rfl
  have hy : b[6]? = some y := rfl
  obtain ⟨hlength, hplaces⟩ := htwo on off a b ha hb
  obtain ⟨hbare, hdiffer⟩ := hplaces 6 x y hx hy
  obtain ⟨hinserted, -, -, -, hsort⟩ := hone on a ha
  obtain ⟨hplain, -⟩ := hone off b hb
  refine ⟨hgeneric ?_ off true, a, b, x, y, ha, hb, hlength, hx, hy, hbare,
    hdiffer.mpr ⟨rfl, by decide⟩, hinserted x (List.mem_of_getElem? hx),
    hplain y (List.mem_of_getElem? hy), hsort _ ?_ ?_⟩
  · rw [htrigger]
    exact Trigger.noConfusion
  · exact (List.perm_insertionSort _ _).trans (List.reverse_perm a)
  · decide +kernel

end Completion

end DelugeAssist
