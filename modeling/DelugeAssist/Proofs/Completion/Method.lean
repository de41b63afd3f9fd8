-- The text beside a method. All that a table says of a method stands on one line each, so the text
-- made of it has seven lines, and the last of them alone says how the call is written.

import DelugeAssist.Completion
import DelugeAssist.Proofs.Completion.Ending
import DelugeAssist.Proofs.Text.Line

namespace DelugeAssist

namespace Method

/-- What a table says of a method takes one line each, and no line made of it begins as the line of
the usage does. -/
structure Plain (method : Method) : Prop where
  feedless : ∀ text ∈ [method.name, method.parameters, method.description, method.returns],
    '\n' ∉ text.toList
  name : ':' ∉ method.name.toList
  description : '*' ∉ method.description.toList

theorem plain_ofList {name parameters description returns : List Char}
    (hfeed : ∀ text ∈ [name, parameters, description, returns], '\n' ∉ text) (hname : ':' ∉ name)
    (hdescription : '*' ∉ description) :
    Plain ⟨String.ofList name, String.ofList parameters, String.ofList description,
      String.ofList returns⟩ where
  feedless := by simpa using hfeed
  name := by simpa using hname
  description := by simpa using hdescription

theorem plain_of_mem {service : Service} {method : Method} (h : method ∈ service.methods) :
    method.Plain := by
  have hall : ∀ other ∈ service.methods, other.Plain := by
    cases service <;>
      simp only [Service.methods, crmTable, deskTable, booksTable, billingTable, projectsTable,
        aiTable, List.forall_mem_cons, List.not_mem_nil, IsEmpty.forall_iff, implies_true, and_true]
    -- What is left is one goal for each table. The texts are looked through as lists of characters.
    all_goals and_intros
    all_goals apply plain_ofList <;> decide +kernel
  exact hall method h

theorem feed_notMem_call {method : Method} (h : method.Plain) : '\n' ∉ method.call.toList := by
  have hname := h.feedless method.name (by simp)
  have hparameters := h.feedless method.parameters (by simp)
  simp [call, hname, hparameters]

/-- The lines of the text beside a method. -/
def documentationLines (service : Service) (method : Method) : List String :=
  ["**" ++ method.name ++ "**", "", method.description, "",
    "**Returns:** `" ++ method.returns ++ "`", "",
    "**Usage:** `zoho." ++ service.identifier ++ "." ++ method.call ++ "`"]

theorem feed_notMem_documentationLines (service : Service) {method : Method} (h : method.Plain) :
    ∀ line ∈ method.documentationLines service, '\n' ∉ line.toList := by
  have hname := h.feedless method.name (by simp)
  have hdescription := h.feedless method.description (by simp)
  have hreturns := h.feedless method.returns (by simp)
  have hservice := service.feed_notMem_identifier
  have hcall := feed_notMem_call h
  simp [documentationLines, hname, hdescription, hreturns, hservice, hcall]

theorem pieces_documentation (service : Service) {method : Method} (h : method.Plain) :
    Text.pieces (method.documentation service).toList =
      (method.documentationLines service).map String.toList := by
  have hjoined : (method.documentation service).toList =
      ['\n'].intercalate ((method.documentationLines service).map String.toList) := by
    simp [documentation, documentationLines]
  rw [hjoined, Text.pieces_eq_splitOn, List.splitOn_intercalate]
  · intro line hline
    obtain ⟨text, htext, rfl⟩ := List.mem_map.mp hline
    exact feed_notMem_documentationLines service h text htext
  · simp [documentationLines]

end Method

namespace Completion

/-- What is read off each item of a list, where it hangs on no place. -/
theorem map_mapIdx_of_mem {α β γ : Type} {f : Nat → α → β} {g : β → γ} {k : α → γ} {list : List α}
    (h : ∀ place, ∀ a ∈ list, g (f place a) = k a) : (list.mapIdx f).map g = list.map k := by
  apply List.ext_getElem?
  intro place
  simp only [List.getElem?_map, List.getElem?_mapIdx, Option.map_map]
  rcases ha : list[place]? with _ | a
  · rfl
  · simp [h place a (List.mem_of_getElem? ha)]

/-- The lines beside an item that say how the call is written. -/
def Item.usageLines (item : Item) : List Text :=
  match item.documentation with
  | some documentation =>
    (Text.pieces documentation.toList).filter ("**Usage:**".toList <+: ·)
  | none => []

/-- Just the last line beside a method says how the call is written. -/
theorem usageLines_methodItem (service : Service) (snippets : Bool) (place : Nat) {method : Method}
    (h : method.Plain) :
    (methodItem service snippets place method).usageLines =
      [("**Usage:** `zoho." ++ service.identifier ++ "." ++ method.call ++ "`").toList] := by
  have hname : ¬ "**Usage:**".toList <+: ("**" ++ method.name ++ "**").toList := by
    intro hopens
    have hcolon := hopens.mem (show ':' ∈ _ by decide)
    simp [h.name] at hcolon
  have hdescription : ¬ "**Usage:**".toList <+: method.description.toList := by
    intro hopens
    exact h.description (hopens.mem (by decide))
  have hreturns : ¬ "**Usage:**".toList <+: ("**Returns:** `" ++ method.returns ++ "`").toList := by
    simp
  have hempty : ¬ "**Usage:**".toList <+: "".toList := by decide
  have husage : "**Usage:**".toList <+:
      ("**Usage:** `zoho." ++ service.identifier ++ "." ++ method.call ++ "`").toList := by
    simp
  simp only [Item.usageLines, methodItem, Method.pieces_documentation service h,
    Method.documentationLines, List.map_cons, List.map_nil, List.filter_cons, List.filter_nil,
    hname, hdescription, hreturns, hempty, husage, decide_true, decide_false, Bool.false_eq_true,
    if_true, if_false]

theorem usageLines_methodItems (service : Service) (snippets : Bool) :
    (methodItems service snippets).map (·.usageLines) = service.methods.map fun method =>
      [("**Usage:** `zoho." ++ service.identifier ++ "." ++ method.call ++ "`").toList] := by
  unfold methodItems
  apply map_mapIdx_of_mem
  intro place method hmethod
  exact usageLines_methodItem service snippets place (Method.plain_of_mem hmethod)

end Completion

end DelugeAssist
