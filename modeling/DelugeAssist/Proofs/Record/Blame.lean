-- Which problem a reading tells of. An attempt that is put together of others has the problems of
-- all of them, and tells of the one that is visited first, whatever the order of the parts.

import DelugeAssist.Proofs.Record.Reading
import Mathlib.Data.String.Basic

namespace DelugeAssist

/-! ## The order of visits -/

namespace Place

theorem before_irrefl (p : Place) : p.before p = false := by
  cases p with
  | member key => exact decide_eq_false (String.lt_irrefl key)
  | item index => exact decide_eq_false (Nat.lt_irrefl index)
  | absent => rfl

theorem before_trans {p q r : Place} (hpq : p.before q = true) (hqr : q.before r = true) :
    p.before r = true := by
  cases p <;> cases q <;> cases r <;>
    simp only [before, decide_eq_true_eq, Bool.false_eq_true] at hpq hqr ⊢
  · exact String.lt_trans hpq hqr
  · exact Nat.lt_trans hpq hqr

/-- Of two places that differ, one is visited before the other. -/
theorem eq_of_not_before {p q : Place} (hpq : p.before q = false) (hqp : q.before p = false) :
    p = q := by
  cases p <;> cases q <;>
    simp only [before, decide_eq_false_iff_not, not_lt, Bool.true_eq_false] at hpq hqp
  · exact congrArg member (le_antisymm hqp hpq)
  · exact congrArg item (le_antisymm hqp hpq)
  · rfl

/-- What does not come before a place does not come before an earlier one. -/
theorem not_before_of_before {p q r : Place} (hrp : r.before p = false)
    (hqp : q.before p = true) : r.before q = false := by
  cases hrq : r.before q with
  | false => rfl
  | true =>
    rw [before_trans hrq hqp] at hrp
    exact hrp

theorem not_before_trans {p q r : Place} (hrq : r.before q = false)
    (hqp : q.before p = false) : r.before p = false := by
  cases hpq : p.before q with
  | true => exact not_before_of_before hrq hpq
  | false => rwa [eq_of_not_before hpq hqp]

end Place

namespace Problem

/-- One of the problems there are, with none visited before it. -/
def FirstOf (problem : Problem) (problems : Problem → Prop) : Prop :=
  problems problem ∧ ∀ other, problems other → other.place.before problem.place = false

variable {p q : Problem} {S T : Problem → Prop}

theorem FirstOf.place_eq (hp : p.FirstOf S) (hq : q.FirstOf S) : p.place = q.place :=
  Place.eq_of_not_before (hq.2 p hp.1) (hp.2 q hq.1)

/-- The earlier one of two first problems is the first of all. -/
theorem FirstOf.union (hp : p.FirstOf S) (hq : q.FirstOf T) :
    (Attempt.firstProblem p q).FirstOf fun problem => S problem ∨ T problem := by
  unfold Attempt.firstProblem
  split
  · rename_i hqp
    refine ⟨.inr hq.1, ?_⟩
    rintro other (hother | hother)
    · exact Place.not_before_of_before (hp.2 other hother) hqp
    · exact hq.2 other hother
  · rename_i hqp
    refine ⟨.inl hp.1, ?_⟩
    rintro other (hother | hother)
    · exact hp.2 other hother
    · exact Place.not_before_trans (hq.2 other hother) (Bool.eq_false_iff.mpr hqp)

end Problem

/-! ## Attempts -/

namespace Attempt

variable {α β : Type} {S T : Problem → Prop}

/-- The attempt has these problems: it succeeds just if there is none, and tells of the first of
them if there are some. -/
def Blames (attempt : Attempt α) (problems : Problem → Prop) : Prop :=
  match attempt.result with
  | .ok _ => ∀ problem, ¬ problems problem
  | .error problem => problem.FirstOf problems

theorem Blames.congr {x : Attempt α} (hx : x.Blames S) (h : ∀ p, S p ↔ T p) : x.Blames T := by
  obtain rfl : S = T := funext fun p => propext (h p)
  exact hx

theorem Blames.ok_iff {x : Attempt α} (hx : x.Blames S) :
    (∃ a, x.result = .ok a) ↔ ∀ p, ¬ S p := by
  unfold Blames at hx
  cases hresult : x.result with
  | ok a =>
    rw [hresult] at hx
    exact ⟨fun _ => hx, fun _ => ⟨a, rfl⟩⟩
  | error p =>
    rw [hresult] at hx
    constructor
    · rintro ⟨a, ha⟩
      cases ha
    · intro hnone
      exact absurd hx.1 (hnone p)

theorem Blames.firstOf {x : Attempt α} (hx : x.Blames S) {p : Problem}
    (h : x.result = .error p) : p.FirstOf S := by
  unfold Blames at hx
  rwa [h] at hx

theorem blames_pure (a : α) : (pure a : Attempt α).Blames fun _ => False := fun _ h => h

theorem blames_fails (place : Place) (mismatch : Mismatch) :
    (fails place mismatch : Attempt α).Blames fun p => p = ⟨place, mismatch⟩ := by
  refine ⟨rfl, ?_⟩
  rintro _ rfl
  exact place.before_irrefl

/-- Both attempts are made, and the problems are those of both. -/
theorem Blames.seq {f : Attempt (α → β)} {x : Attempt α} (hf : f.Blames S) (hx : x.Blames T) :
    (f <*> x).Blames fun p => S p ∨ T p := by
  obtain ⟨f⟩ := f
  obtain ⟨x⟩ := x
  change (both ⟨f⟩ ⟨x⟩).Blames _
  cases f with
  | ok f =>
    cases x with
    | ok x => exact fun p hp => hp.elim (hf p) (hx p)
    | error q =>
      exact ⟨.inr hx.1, fun p hp => hp.elim (fun hp => absurd hp (hf p)) (hx.2 p)⟩
  | error p =>
    cases x with
    | ok x => exact ⟨.inl hf.1, fun q hq => hq.elim (hf.2 q) (fun hq => absurd hq (hx q))⟩
    | error q => exact Problem.FirstOf.union hf hx

theorem Blames.map {x : Attempt α} (f : α → β) (hx : x.Blames S) : (f <$> x).Blames S :=
  ((blames_pure f).seq hx).congr fun p => by simp

theorem Blames.seqLeft {x : Attempt α} {y : Attempt β} (hx : x.Blames S) (hy : y.Blames T) :
    (x <* y).Blames fun p => S p ∨ T p :=
  (hx.map fun a _ => a).seq hy

end Attempt

/-! ## Records -/

namespace Record

variable {V α : Type} {r : Record V}

/-- The place of a field: by its name, or in the list. -/
def placeOf (r : Record V) (name : String) : Place :=
  match r.fields with
  | .members _ => .member name
  | .items _ => .item (r.names.idxOf name)

/-- What the record holds for a field does not fit. -/
def Unfit (r : Record V) (name : String) (read : V → Except Mismatch α) (p : Problem) : Prop :=
  p.place = r.placeOf name ∧ ∃ value, r.value? name = some value ∧ read value = .error p.mismatch

theorem field?_of_absent {name : String} {read : V → Except Mismatch α} (h : r.lenient = true)
    (hvalue : r.value? name = none) : r.field? name read = pure none := by
  obtain ⟨owner, names, fields, closed, lenient, setAside⟩ := r
  obtain rfl : lenient = true := h
  cases fields with
  | members members =>
    have hlookup : members.lookup name = none := hvalue
    simp only [field?, hlookup]
  | items items =>
    have hitem : items[names.idxOf name]? = none := hvalue
    simp only [field?, hitem, if_true]

theorem field?_of_held {name : String} {value : V} (read : V → Except Mismatch α)
    (hvalue : r.value? name = some value) :
    r.field? name read = ⟨((read value).map some).mapError (⟨r.placeOf name, ·⟩)⟩ := by
  obtain ⟨owner, names, fields, closed, lenient, setAside⟩ := r
  cases fields with
  | members members =>
    have hlookup : members.lookup name = some value := hvalue
    simp only [field?, placeOf, hlookup]
  | items items =>
    have hitem : items[names.idxOf name]? = some value := hvalue
    simp only [field?, placeOf, hitem]

/-- A field of a record that may leave out fields has no other problem. -/
theorem field?_blames (h : r.lenient = true) (name : String) (read : V → Except Mismatch α) :
    (r.field? name read).Blames (r.Unfit name read) := by
  cases hvalue : r.value? name with
  | none =>
    rw [field?_of_absent h hvalue]
    exact (Attempt.blames_pure none).congr fun p => by simp [Unfit, hvalue]
  | some value =>
    rw [field?_of_held read hvalue]
    cases hresult : read value with
    | ok a =>
      intro p hp
      simp [Unfit, hvalue, hresult] at hp
    | error mismatch =>
      refine ⟨⟨rfl, value, hvalue, hresult⟩, ?_⟩
      rintro p ⟨hplace, -⟩
      rw [hplace]
      exact Place.before_irrefl _

/-! ## What stands beside the fields -/

theorem leastUnknown?_eq (names : List String) (members : List (String × V)) :
    leastUnknown? names members =
      ((members.map (·.1)).filter fun key => !names.contains key).min? := by
  unfold leastUnknown?
  generalize (members.map (·.1)).filter (fun key => !names.contains key) = keys
  cases keys with
  | nil => rfl
  | cons key rest =>
    rw [List.min?_cons', List.foldl_cons]
    simp only
    induction rest generalizing key with
    | nil => rfl
    | cons next rest ih =>
      rw [List.foldl_cons, List.foldl_cons, ← ih]
      congr 1
      simp only
      split
      · rename_i hlt
        rw [min_eq_right hlt.le]
      · rename_i hle
        rw [min_eq_left (not_lt.mp hle)]

theorem mem_keys_iff {members : List (String × V)} {key : String} :
    key ∈ members.map (·.1) ↔ members.lookup key ≠ none := by
  simp [List.lookup_eq_none_iff]

/-- What the record holds beside its fields: names that are not declared, or a list that is too
long. -/
def Surplus (r : Record V) (p : Problem) : Prop :=
  match r.fields with
  | .members members =>
    ∃ key, members.lookup key ≠ none ∧ key ∉ r.names ∧
      p = ⟨.member key, .unknownField key r.names⟩
  | .items items =>
    r.names.length < items.length ∧
      p = ⟨.absent, .wrongLength items.length r.lengthAllowed⟩

theorem leftOver_blames (h : r.closed = true) : r.leftOver.Blames r.Surplus := by
  obtain ⟨owner, names, fields, closed, lenient, setAside⟩ := r
  obtain rfl : closed = true := h
  cases fields with
  | members members =>
    simp only [leftOver, leastUnknown?_eq, if_true]
    cases hleast : ((members.map (·.1)).filter fun key => !names.contains key).min? with
    | none =>
      rintro p ⟨key, hkey, hunknown, -⟩
      have hmem : key ∈ (members.map (·.1)).filter fun key => !names.contains key :=
        List.mem_filter.mpr ⟨mem_keys_iff.mpr hkey, by simpa using hunknown⟩
      rw [List.min?_eq_none_iff.mp hleast] at hmem
      cases hmem
    | some least =>
      obtain ⟨hmem, hle⟩ := List.min?_eq_some_iff.mp hleast
      simp only [List.mem_filter, mem_keys_iff, Bool.not_eq_true', List.contains_eq_mem,
        decide_eq_false_iff_not] at hmem hle
      refine ⟨⟨least, hmem.1, hmem.2, rfl⟩, ?_⟩
      rintro p ⟨key, hkey, hunknown, rfl⟩
      exact decide_eq_false (not_lt.mpr (hle key ⟨hkey, hunknown⟩))
  | items items =>
    simp only [leftOver]
    split
    · rename_i hlong
      exact (Attempt.blames_fails _ _).congr fun p => (and_iff_right hlong).symm
    · rename_i hlong
      exact (Attempt.blames_pure ()).congr fun p => (iff_false_left not_false).mpr fun h => hlong h.1

theorem read_blames {build : Record V → Attempt α} {S : Problem → Prop} (h : r.closed = true)
    (hbuild : (build r).Blames S) : (r.read build).Blames fun p => S p ∨ r.Surplus p :=
  hbuild.seqLeft (leftOver_blames h)

end Record

end DelugeAssist
