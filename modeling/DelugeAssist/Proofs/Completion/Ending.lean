-- The endings that ask for something. Behind the last dot but one they differ, so no two of them
-- end one text: it makes no difference in which order they are tried, and nothing counts but the
-- last nineteen characters.

import DelugeAssist.Text.Measure
import DelugeAssist.Trigger
import Mathlib.Data.List.Find
import Mathlib.Logic.Function.Basic

namespace DelugeAssist

/-! ## Endings with a mark in them -/

namespace Text

/-- An ending without a mark does not reach back over that mark. -/
theorem suffix_behind_iff {mark : Char} {ending : Text} (h : mark ∉ ending) (before part : Text) :
    ending <:+ before ++ mark :: part ↔ ending <:+ part := by
  constructor
  · intro hends
    rcases List.suffix_or_suffix_of_suffix hends (List.suffix_append before (mark :: part)) with
      hin | hover
    · rcases List.suffix_cons_iff.mp hin with rfl | hpart
      · simp at h
      · exact hpart
    · exact absurd (hover.mem (by simp)) h
  · intro hpart
    exact hpart.trans ((List.suffix_cons mark part).trans (List.suffix_append _ _))

/-- An ending and the text that it ends are the same behind the last mark. -/
theorem suffix_marked_iff {mark : Char} {last part : Text} (hlast : mark ∉ last)
    (hpart : mark ∉ part) (ending before : Text) :
    ending ++ mark :: last <:+ before ++ mark :: part ↔ last = part ∧ ending <:+ before := by
  constructor
  · intro hends
    obtain rfl : last = part := by
      rcases List.suffix_or_suffix_of_suffix ((List.suffix_append ending _).trans hends)
        (List.suffix_append before _) with hin | hin
      · rcases List.suffix_cons_iff.mp hin with heq | hover
        · exact (List.cons.inj heq).2
        · exact absurd (hover.mem (by simp)) hpart
      · rcases List.suffix_cons_iff.mp hin with heq | hover
        · exact (List.cons.inj heq).2.symm
        · exact absurd (hover.mem (by simp)) hlast
    exact ⟨rfl, ((List.suffix_append_inj_of_length_eq rfl).mp hends).1⟩
  · rintro ⟨rfl, hends⟩
    exact (List.suffix_append_inj_of_length_eq rfl).mpr ⟨hends, rfl⟩

end Text

/-! ## Identifiers -/

namespace Service

theorem dot_notMem_identifier (service : Service) : '.' ∉ service.identifier.toList := by
  cases service <;> decide

theorem feed_notMem_identifier (service : Service) : '\n' ∉ service.identifier.toList := by
  cases service <;> decide

/-- No identifier ends in the word that all of them stand behind. -/
theorem not_zoho_suffix_identifier (service : Service) :
    ¬ "zoho".toList <:+ service.identifier.toList := by
  cases service <;> decide

theorem length_identifier_le (service : Service) : service.identifier.toList.length ≤ 13 := by
  cases service <;> decide

theorem ofIdentifier?_identifier (service : Service) :
    ofIdentifier? service.identifier = some service := by
  cases service <;> decide

theorem identifier_injective : Function.Injective identifier := by
  intro first second h
  have hfirst := ofIdentifier?_identifier first
  rw [h, ofIdentifier?_identifier second] at hfirst
  exact (Option.some.inj hfirst).symm

end Service

namespace Trigger

/-! ## An identifier behind the namespace -/

theorem rootEnding_suffix_iff (before identifier : Text) :
    rootEnding <:+ before ++ rootEnding ++ identifier ++ ['.'] ↔ "zoho".toList <:+ identifier := by
  have hroot : rootEnding = "zoho".toList ++ ['.'] := by decide
  have hcut :
      before ++ rootEnding ++ identifier = before ++ "zoho".toList ++ '.' :: identifier := by
    simp [hroot]
  rw [hcut, hroot, List.suffix_append_inj_of_length_eq rfl, and_iff_left rfl]
  exact Text.suffix_behind_iff (by decide) _ identifier

theorem scopedEnding_suffix_iff {identifier : Text} (hdot : '.' ∉ identifier) (before : Text)
    (service : Service) :
    scopedEnding service <:+ before ++ rootEnding ++ identifier ++ ['.'] ↔
      service.identifier.toList = identifier := by
  have hroot : rootEnding = "zoho".toList ++ ['.'] := by decide
  have hcut (part : Text) : rootEnding ++ part = "zoho".toList ++ '.' :: part := by simp [hroot]
  rw [scopedEnding, List.suffix_append_inj_of_length_eq rfl, and_iff_left rfl, List.append_assoc,
    hcut, hcut, ← List.append_assoc, Text.suffix_marked_iff service.dot_notMem_identifier hdot]
  exact and_iff_left (List.suffix_append before _)

/-! ## The endings of a text -/

/-- The ending that asks for a trigger. Any other asks for the words of the language. -/
def ending? : Trigger → Option Text
  | .namespaceRoot => some rootEnding
  | .serviceScoped service => some (scopedEnding service)
  | .generic => none

/-- A text ends in what asks for the trigger. -/
def AskedBy (trigger : Trigger) (left : Text) : Prop := ∃ ending ∈ trigger.ending?, ending <:+ left

instance (trigger : Trigger) (left : Text) : Decidable (trigger.AskedBy left) :=
  Option.decidableExistsMem _

/-- The triggers that an ending asks for. -/
def withEnding : List Trigger := .namespaceRoot :: Service.all.map .serviceScoped

/-- What a text asks for when the endings are tried in the order given. -/
def firstAsked (order : List Trigger) (left : Text) : Trigger :=
  (order.find? (AskedBy · left)).getD .generic

variable {left : Text} {trigger : Trigger}

@[simp] theorem namespaceRoot_askedBy_iff : AskedBy .namespaceRoot left ↔ rootEnding <:+ left := by
  simp [AskedBy, ending?]

@[simp] theorem serviceScoped_askedBy_iff {service : Service} :
    AskedBy (.serviceScoped service) left ↔ scopedEnding service <:+ left := by
  simp [AskedBy, ending?]

@[simp] theorem not_generic_askedBy : ¬ AskedBy .generic left := by simp [AskedBy, ending?]

theorem AskedBy.ne_generic (h : trigger.AskedBy left) : trigger ≠ .generic := by
  rintro rfl
  exact not_generic_askedBy h

theorem AskedBy.append (h : trigger.AskedBy left) (before : Text) :
    trigger.AskedBy (before ++ left) := by
  obtain ⟨ending, hending, hends⟩ := h
  exact ⟨ending, hending, hends.trans (List.suffix_append before left)⟩

theorem mem_withEnding_iff : trigger ∈ withEnding ↔ trigger ≠ .generic := by
  cases trigger <;> simp [withEnding, Service.mem_all]

/-! ## No two endings at once -/

/-- A text that asks for the methods of a service asks for nothing else. -/
theorem AskedBy.eq_scoped {service : Service} (h : trigger.AskedBy left)
    (hscoped : scopedEnding service <:+ left) : trigger = .serviceScoped service := by
  obtain ⟨before, rfl⟩ := hscoped
  rw [scopedEnding, ← List.append_assoc, ← List.append_assoc] at h
  cases trigger with
  | namespaceRoot =>
    rw [namespaceRoot_askedBy_iff, rootEnding_suffix_iff] at h
    exact absurd h service.not_zoho_suffix_identifier
  | serviceScoped other =>
    rw [serviceScoped_askedBy_iff, scopedEnding_suffix_iff service.dot_notMem_identifier,
      String.toList_inj] at h
    rw [Service.identifier_injective h]
  | generic => exact absurd h not_generic_askedBy

theorem AskedBy.unique {other : Trigger} (h : trigger.AskedBy left) (hother : other.AskedBy left) :
    trigger = other := by
  cases trigger with
  | namespaceRoot =>
    cases other with
    | namespaceRoot => rfl
    | serviceScoped service => exact h.eq_scoped (serviceScoped_askedBy_iff.mp hother)
    | generic => exact absurd hother not_generic_askedBy
  | serviceScoped service => exact (hother.eq_scoped (serviceScoped_askedBy_iff.mp h)).symm
  | generic => exact absurd h not_generic_askedBy

/-- The ending that is found is the only one, so any order finds it. -/
theorem firstAsked_of_perm {order : List Trigger} (h : order.Perm withEnding) :
    firstAsked order left = firstAsked withEnding left := by
  unfold firstAsked
  rw [List.find?_eq_find?_of_perm h]
  rintro first ⟨-, hfirst⟩ second ⟨-, hsecond⟩
  exact (of_decide_eq_true hfirst).unique (of_decide_eq_true hsecond)

theorem AskedBy.firstAsked_eq {order : List Trigger} (h : trigger.AskedBy left)
    (hmem : trigger ∈ order) : firstAsked order left = trigger := by
  have hsome : (order.find? (AskedBy · left)).isSome := by
    rw [List.find?_isSome]
    exact ⟨trigger, hmem, decide_eq_true h⟩
  obtain ⟨found, hfound⟩ := Option.isSome_iff_exists.mp hsome
  have hasked := List.find?_some hfound
  rw [firstAsked, hfound]
  exact (of_decide_eq_true hasked).unique h

theorem askedBy_firstAsked {order : List Trigger} (h : firstAsked order left ≠ .generic) :
    (firstAsked order left).AskedBy left := by
  rw [firstAsked] at h ⊢
  rcases hfound : order.find? (AskedBy · left) with _ | found
  · rw [hfound] at h
    exact absurd rfl h
  · have hasked := List.find?_some hfound
    exact of_decide_eq_true hasked

/-! ## What a text asks for -/

/-- The endings are tried one by one, `zoho.` before the services. -/
theorem ofText_eq_firstAsked (left : Text) : ofText left = firstAsked withEnding left := by
  have hroot : decide (AskedBy .namespaceRoot left) = rootEnding.isSuffixOf left := by
    rw [Bool.eq_iff_iff, decide_eq_true_iff, namespaceRoot_askedBy_iff,
      List.isSuffixOf_iff_suffix]
  have hscoped : (fun service => decide (AskedBy (.serviceScoped service) left)) =
      fun service => (scopedEnding service).isSuffixOf left := by
    funext service
    rw [Bool.eq_iff_iff, decide_eq_true_iff, serviceScoped_askedBy_iff,
      List.isSuffixOf_iff_suffix]
  rw [ofText, firstAsked, withEnding, List.find?_cons, hroot, List.find?_map, Function.comp_def,
    hscoped]
  rcases rootEnding.isSuffixOf left with _ | _
  · rcases Service.all.find? fun service => (scopedEnding service).isSuffixOf left with _ | service
    · rfl
    · rfl
  · rfl

/-- A text asks for something just if it ends in what asks for that. -/
theorem ofText_eq_iff (h : trigger ≠ .generic) : ofText left = trigger ↔ trigger.AskedBy left := by
  rw [ofText_eq_firstAsked]
  constructor
  · rintro rfl
    exact askedBy_firstAsked h
  · intro hasked
    exact hasked.firstAsked_eq (mem_withEnding_iff.mpr h)

theorem ofText_eq_generic_iff :
    ofText left = .generic ↔ ∀ trigger : Trigger, ¬ trigger.AskedBy left := by
  constructor
  · intro hnone trigger hasked
    exact hasked.ne_generic (((ofText_eq_iff hasked.ne_generic).mpr hasked).symm.trans hnone)
  · intro hnone
    by_contra hsome
    exact hnone _ ((ofText_eq_iff hsome).mp rfl)

/-- Texts with the same endings ask for the same. -/
theorem ofText_congr {first second : Text}
    (h : ∀ trigger : Trigger, trigger.AskedBy first ↔ trigger.AskedBy second) :
    ofText first = ofText second := by
  simp only [ofText_eq_firstAsked, firstAsked, h]

/-! ## The last characters -/

theorem length_ending_le {ending : Text} (h : ending ∈ trigger.ending?) : ending.length ≤ 19 := by
  cases trigger with
  | namespaceRoot =>
    rw [← Option.mem_some_iff.mp h]
    decide
  | serviceScoped service =>
    have hroot : rootEnding.length = 5 := by decide
    have hidentifier := service.length_identifier_le
    rw [← Option.mem_some_iff.mp h, scopedEnding, List.length_append, List.length_append, hroot,
      List.length_singleton]
    omega
  | generic => cases h

theorem askedBy_last_iff :
    trigger.AskedBy (left.drop (left.length - 19)) ↔ trigger.AskedBy left := by
  constructor
  · intro h
    have hlonger := h.append (left.take (left.length - 19))
    rwa [List.take_append_drop] at hlonger
  · rintro ⟨ending, hending, hends⟩
    have hlength := length_ending_le hending
    have hleft := hends.length_le
    refine ⟨ending, hending, ?_⟩
    exact List.suffix_of_suffix_length_le hends (List.drop_suffix _ left) (by simp; omega)

/-- A text asks for a service just if it ends in `zoho.`, and for a method of a service just if it
ends in `zoho.`, the identifier of the service and a dot. No two of these endings end one text, so
they may be tried in any order; a text that asks for something asks for the same whatever stands
before it; and nothing counts but the last nineteen characters. -/
theorem no_two_endings_ask_at_once (left : Text) :
    (ofText left = .namespaceRoot ↔ "zoho.".toList <:+ left) ∧
    (∀ service : Service, ofText left = .serviceScoped service ↔
      ("zoho." ++ service.identifier ++ ".").toList <:+ left) ∧
    (∀ first second : Trigger, first.AskedBy left → second.AskedBy left → first = second) ∧
    (∀ order : List Trigger, order.Perm withEnding → firstAsked order left = ofText left) ∧
    (ofText left ≠ .generic → ∀ before, ofText (before ++ left) = ofText left) ∧
    ofText left = ofText (left.drop (left.length - 19)) := by
  refine ⟨?_, ?_, fun first second => AskedBy.unique, ?_, ?_, ?_⟩
  · rw [ofText_eq_iff (by decide), namespaceRoot_askedBy_iff]
    rfl
  · intro service
    have hending : ("zoho." ++ service.identifier ++ ".").toList = scopedEnding service := by
      simp [scopedEnding, rootEnding]
    rw [ofText_eq_iff (by simp), serviceScoped_askedBy_iff, hending]
  · intro order h
    rw [ofText_eq_firstAsked, firstAsked_of_perm h]
  · intro h before
    have hasked := (ofText_eq_iff h).mp rfl
    exact (ofText_eq_iff h).mpr (hasked.append before)
  · exact (ofText_congr fun _ => askedBy_last_iff).symm

/-- The longest ending, behind that of another service. -/
theorem one_ending_asks_behind_another_service :
    let left : Text := "zoho.desk.create(zoho.subscriptions.".toList
    ofText left = .serviceScoped .subscriptions ∧
    (∀ other : Trigger, other.AskedBy left → other = .serviceScoped .subscriptions) ∧
    withEnding.reverse.Perm withEnding ∧
    firstAsked withEnding.reverse left = .serviceScoped .subscriptions ∧
    ofText left ≠ .generic ∧ ofText ("é = ".toList ++ left) = .serviceScoped .subscriptions ∧
    ofText "zoho.subscriptions.".toList = .serviceScoped .subscriptions := by
  intro left
  obtain ⟨-, hscoped, hunique, horder, hbefore, hlast⟩ := no_two_endings_ask_at_once left
  have hleft : ofText left = .serviceScoped .subscriptions :=
    (hscoped .subscriptions).mpr (by decide +kernel)
  have hsome : ofText left ≠ .generic := by simp [hleft]
  have hperm : withEnding.reverse.Perm withEnding := List.reverse_perm withEnding
  refine ⟨hleft, ?_, hperm, (horder _ hperm).trans hleft, hsome, (hbefore hsome _).trans hleft, ?_⟩
  · intro other hother
    exact hunique other _ hother (by decide +kernel)
  · have hcut : left.drop (left.length - 19) = "zoho.subscriptions.".toList := by decide +kernel
    rw [← hcut, ← hlast, hleft]

end Trigger

end DelugeAssist
