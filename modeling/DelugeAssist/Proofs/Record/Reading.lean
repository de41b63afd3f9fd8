-- What follows from a reading that succeeds: every part of it succeeded, and each field was read
-- from what the record holds under its name, or in its place where the record is a list.

import DelugeAssist.Json.Typed

namespace DelugeAssist

section Except

variable {ε δ α β : Type} {read : Except ε α}

theorem toOption_eq_some {a : α} : read.toOption = some a ↔ read = .ok a := by
  cases read <;> simp [Except.toOption]

theorem mapError_ok (f : ε → δ) (a : α) : (Except.ok a).mapError f = .ok a := rfl

theorem mapError_error (f : ε → δ) (e : ε) :
    (Except.error e : Except ε α).mapError f = .error (f e) := rfl

theorem mapError_eq_ok {f : ε → δ} {a : α} : read.mapError f = .ok a ↔ read = .ok a := by
  cases read <;> simp [mapError_ok, mapError_error]

theorem map_eq_ok {f : α → β} {b : β} : read.map f = .ok b ↔ ∃ a, read = .ok a ∧ f a = b := by
  cases read <;> simp [Except.map]

theorem bind_eq_ok {f : α → Except ε β} {b : β} :
    read.bind f = .ok b ↔ ∃ a, read = .ok a ∧ f a = .ok b := by
  cases read <;> simp [Except.bind]

end Except

/-! ## Attempts -/

namespace Attempt

variable {α β : Type}

theorem outcome_eq_ok {attempt : Attempt α} {a : α} :
    attempt.outcome = .ok a ↔ attempt.result = .ok a :=
  mapError_eq_ok

/-- Of two attempts, both have to succeed. -/
theorem result_seq_eq_ok {f : Attempt (α → β)} {x : Attempt α} {b : β} :
    (f <*> x).result = .ok b ↔ ∃ g a, f.result = .ok g ∧ x.result = .ok a ∧ g a = b := by
  obtain ⟨f⟩ := f
  obtain ⟨x⟩ := x
  change (both ⟨f⟩ ⟨x⟩).result = .ok b ↔ _
  cases f <;> cases x <;> simp [both]

theorem result_map_eq_ok {f : α → β} {x : Attempt α} {b : β} :
    (f <$> x).result = .ok b ↔ ∃ a, x.result = .ok a ∧ f a = b := by
  change (pure f <*> x).result = .ok b ↔ _
  rw [result_seq_eq_ok]
  constructor
  · rintro ⟨g, a, hg, hx, hb⟩
    obtain rfl : f = g := Except.ok.inj hg
    exact ⟨a, hx, hb⟩
  · rintro ⟨a, hx, hb⟩
    exact ⟨f, a, rfl, hx, hb⟩

theorem result_seqLeft_eq_ok {x : Attempt α} {y : Attempt β} {a : α} :
    (x <* y).result = .ok a ↔ x.result = .ok a ∧ ∃ b, y.result = .ok b := by
  change ((fun a _ => a) <$> x <*> y).result = .ok a ↔ _
  rw [result_seq_eq_ok]
  simp only [result_map_eq_ok]
  constructor
  · rintro ⟨_, b, ⟨a', hx, rfl⟩, hy, rfl⟩
    exact ⟨hx, b, hy⟩
  · rintro ⟨hx, b, hy⟩
    exact ⟨_, b, ⟨a, hx, rfl⟩, hy, rfl⟩

end Attempt

/-! ## Fields -/

theorem Json.readOption_of_ne_null {α : Type} {read : Json → Except Mismatch α} {value : Json}
    (h : value ≠ .null) : readOption read value = (read value).map some := by
  cases value with
  | null => exact absurd rfl h
  | _ => rfl

namespace Record

variable {V α : Type}

/-- What a record holds under a name, or in its place. -/
def value? (r : Record V) (name : String) : Option V :=
  match r.fields with
  | .members members => members.lookup name
  | .items items => items[r.names.idxOf name]?

/-- A field that may be absent is read from what the record holds, where it holds something. -/
theorem field?_eq_ok {r : Record V} {name : String} {read : V → Except Mismatch α}
    {found : Option α} (h : (r.field? name read).result = .ok found) :
    (r.value? name = none ∧ found = none) ∨
      ∃ value a, r.value? name = some value ∧ read value = .ok a ∧ found = some a := by
  obtain ⟨owner, names, fields, closed, lenient, setAside⟩ := r
  cases fields with
  | members members =>
    simp only [field?, value?] at h ⊢
    cases hvalue : members.lookup name with
    | none =>
      rw [hvalue] at h
      exact .inl ⟨rfl, (Except.ok.inj h).symm⟩
    | some value =>
      simp only [hvalue, mapError_eq_ok, map_eq_ok] at h
      obtain ⟨a, hread, rfl⟩ := h
      exact .inr ⟨value, a, rfl, hread, rfl⟩
  | items items =>
    simp only [field?, value?] at h ⊢
    cases hvalue : items[names.idxOf name]? with
    | none =>
      rw [hvalue] at h
      cases lenient with
      | true => exact .inl ⟨rfl, (Except.ok.inj h).symm⟩
      | false => cases h
    | some value =>
      simp only [hvalue, mapError_eq_ok, map_eq_ok] at h
      obtain ⟨a, hread, rfl⟩ := h
      exact .inr ⟨value, a, rfl, hread, rfl⟩

/-- A field that has to be present is there, and fits. -/
theorem field_eq_ok {r : Record V} {name : String} {read : V → Except Mismatch α} {a : α}
    (h : (r.field name read).result = .ok a) :
    ∃ value, r.value? name = some value ∧ read value = .ok a := by
  simp only [field] at h
  rcases hfound : (r.field? name read).result with problem | found
  · simp [hfound] at h
  · rcases field?_eq_ok hfound with ⟨-, rfl⟩ | ⟨value, b, hvalue, hread, rfl⟩
    · simp [hfound] at h
    · simp only [hfound, Except.ok.injEq] at h
      exact ⟨value, hvalue, h ▸ hread⟩

/-- A field that is there and fits is read. -/
theorem field_of_read {r : Record V} {name : String} {read : V → Except Mismatch α} {value : V}
    {a : α} (hvalue : r.value? name = some value) (hread : read value = .ok a) :
    r.field name read = ⟨.ok a⟩ := by
  obtain ⟨owner, names, fields, closed, lenient, setAside⟩ := r
  cases fields with
  | members members =>
    simp only [value?] at hvalue
    simp [field, field?, hvalue, hread, Except.map, mapError_ok]
  | items items =>
    simp only [value?] at hvalue
    simp [field, field?, hvalue, hread, Except.map, mapError_ok]

/-- A field that may be absent or null. -/
theorem optional_eq_ok {r : Record Json} {name : String} {read : Json → Except Mismatch α}
    {found : Option α} (h : (r.optional name read).result = .ok found) :
    ((r.value? name = none ∨ r.value? name = some .null) ∧ found = none) ∨
      ∃ value a, r.value? name = some value ∧ read value = .ok a ∧ found = some a := by
  obtain ⟨inner, hinner, rfl⟩ := Attempt.result_map_eq_ok.mp h
  rcases field?_eq_ok hinner with ⟨hvalue, rfl⟩ | ⟨value, a, hvalue, hread, rfl⟩
  · exact .inl ⟨.inl hvalue, rfl⟩
  · by_cases hnull : value = .null
    · subst hnull
      exact .inl ⟨.inr hvalue, (Except.ok.inj hread).symm⟩
    · rw [Json.readOption_of_ne_null hnull, map_eq_ok] at hread
      obtain ⟨b, hread, rfl⟩ := hread
      exact .inr ⟨value, b, hvalue, hread, rfl⟩

theorem read_eq_ok {r : Record V} {build : Record V → Attempt α} {a : α}
    (h : (r.read build).outcome = .ok a) : (build r).result = .ok a :=
  (Attempt.result_seqLeft_eq_ok.mp (Attempt.outcome_eq_ok.mp h)).1

end Record

namespace Json

variable {α : Type}

/-- What a value holds under a name, or in a place where it is a list. -/
def held? (name : String) (place : Nat) : Json → Option Json
  | .obj members => members.lookup name
  | .arr items => items[place]?
  | _ => none

/-- What is read as a record is one. -/
theorem readRecord_eq_ok {owner : String} {names : List String} {setAside : Bool}
    {build : Record Json → Attempt α} {value : Json} {a : α}
    (h : readRecord owner names setAside build value = .ok a) :
    ∃ r : Record Json, (∀ name, r.value? name = value.held? name (names.idxOf name)) ∧
      (build r).result = .ok a := by
  cases value with
  | obj members => exact ⟨_, fun _ => rfl, Record.read_eq_ok h⟩
  | arr items => exact ⟨_, fun _ => rfl, Record.read_eq_ok h⟩
  | _ => cases h

theorem readPart_eq_ok {owner : String} {names : List String} {members : List (String × Json)}
    {build : Record Json → Attempt α} {a : α}
    (h : readPart owner names members build = .ok a) :
    ∃ r : Record Json, (∀ name, r.value? name = members.lookup name) ∧
      (build r).result = .ok a :=
  ⟨_, fun _ => rfl, Record.read_eq_ok h⟩

/-- A record whose fields are read is read, whatever else it holds. -/
theorem readRecord_of_build {owner : String} {names : List String} {setAside : Bool}
    {build : Record Json → Attempt α} {members : List (String × Json)} {a : α}
    (h : build { owner, names, fields := .members members, setAside } = ⟨.ok a⟩) :
    readRecord owner names setAside build (.obj members) = .ok a := by
  simp only [readRecord, Record.read, h]
  rfl

end Json

end DelugeAssist
