-- What the opening of a session says about places to fill in. The ability is there just if every
-- link to its flag is there and the flag is set, whatever else the editor says about itself.

import DelugeAssist.Proofs.Record.Reading
import DelugeAssist.Protocol.Params

namespace DelugeAssist

/-- What is held at the end of links, each a name and the place that it has in a list. -/
def Json.path? : List (String × Nat) → Json → Option Json
  | [], value => some value
  | (name, place) :: rest, value => (value.held? name place).bind (path? rest)

namespace Params

/-- The links from what an editor can do to its flag for places to fill in. -/
def snippetLinks : List (String × Nat) :=
  [("textDocument", 1), ("completion", 1), ("completionItem", 1), ("snippetSupport", 0)]

/-- The flag for places to fill in, where the parameters of an opening hold it. -/
def snippetFlag? (params : Json) : Option Json :=
  (params.member? "capabilities").bind (Json.path? snippetLinks)

end Params

namespace Abilities

open Json

theorem path?_null (links : List (String × Nat)) : path? links .null ≠ some (.bool true) := by
  cases links <;> simp [path?, held?]

/-- A flag that is read through a field that may be absent or null is set just if the field leads to
one that is. -/
theorem path?_of_optional {owner name : String} {names : List String} {links : List (String × Nat)}
    {read : Json → Except Mismatch Bool} {others : List Check.Field} {value : Json} {flag : Bool}
    (hread : ∀ inner flag, read inner = .ok flag →
      (flag = true ↔ path? links inner = some (.bool true)))
    (h : readRecord owner names false
      (fun r => (·.getD false) <$> r.optional name read <* Check.attemptAll others r) value =
        .ok flag) :
    flag = true ↔ path? ((name, names.idxOf name) :: links) value = some (.bool true) := by
  obtain ⟨r, hvalue, hbuild⟩ := readRecord_eq_ok h
  obtain ⟨hflag, -⟩ := Attempt.result_seqLeft_eq_ok.mp hbuild
  obtain ⟨found, hfound, rfl⟩ := Attempt.result_map_eq_ok.mp hflag
  simp only [path?, ← hvalue name]
  rcases Record.optional_eq_ok hfound with ⟨hnone | hnull, rfl⟩ | ⟨inner, flag, hinner, hset, rfl⟩
  · simp [hnone]
  · simp [hnull, path?_null]
  · rw [hinner]
    exact hread inner flag hset

theorem readBool_eq_ok {value : Json} {flag : Bool} (h : readBool value = .ok flag) :
    flag = true ↔ path? [] value = some (.bool true) := by
  cases value with
  | bool set =>
    obtain rfl := Except.ok.inj h
    simp [path?]
  | _ => cases h

theorem readItem_eq_ok {value : Json} {flag : Bool} (h : readItem value = .ok flag) :
    flag = true ↔ path? (Params.snippetLinks.drop 3) value = some (.bool true) :=
  path?_of_optional (fun _ _ => readBool_eq_ok) h

theorem readCompletion_eq_ok {value : Json} {flag : Bool} (h : readCompletion value = .ok flag) :
    flag = true ↔ path? (Params.snippetLinks.drop 2) value = some (.bool true) :=
  path?_of_optional (fun _ _ => readItem_eq_ok) h

theorem readDocument_eq_ok {value : Json} {flag : Bool} (h : readDocument value = .ok flag) :
    flag = true ↔ path? (Params.snippetLinks.drop 1) value = some (.bool true) :=
  path?_of_optional (fun _ _ => readCompletion_eq_ok) h

theorem read_eq_ok {value : Json} {flag : Bool} (h : read value = .ok flag) :
    flag = true ↔ path? Params.snippetLinks value = some (.bool true) :=
  path?_of_optional (fun _ _ => readDocument_eq_ok) h

end Abilities

namespace Params

/-- An opening says that places can be filled in just if its parameters hold that flag, and it is
set. -/
theorem snippetSupport_iff {params : Json} {opening : Opening}
    (h : readOpening params = .ok opening) :
    opening.snippetSupport = true ↔ snippetFlag? params = some (.bool true) := by
  cases params with
  | obj members =>
    obtain ⟨read, hread, hrest⟩ := bind_eq_ok.mp h
    obtain ⟨-, -, hrest⟩ := bind_eq_ok.mp hrest
    obtain rfl : read = opening := Except.ok.inj hrest
    obtain ⟨r, hvalue, hbuild⟩ := Json.readPart_eq_ok hread
    simp only [Attempt.result_seq_eq_ok, Attempt.result_map_eq_ok] at hbuild
    -- The capabilities are the fifth of nine fields.
    obtain ⟨_, _, ⟨_, _, ⟨_, _, ⟨_, _, ⟨_, flag, ⟨_, _, ⟨_, _, ⟨_, _, ⟨_, -, rfl⟩, -, rfl⟩, -, rfl⟩,
      -, rfl⟩, hflag, rfl⟩, -, rfl⟩, -, rfl⟩, -, rfl⟩, -, rfl⟩ := hbuild
    obtain ⟨capabilities, hcapabilities, hflag⟩ := Record.field_eq_ok hflag
    rw [hvalue] at hcapabilities
    simp only [snippetFlag?, Json.member?, hcapabilities, Option.bind_some]
    exact Abilities.read_eq_ok hflag
  | _ => cases h

end Params

end DelugeAssist
