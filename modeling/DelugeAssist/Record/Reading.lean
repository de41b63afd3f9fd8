-- Records read field by field. Of several fields that do not fit, the first in the order of the
-- keys is the one to blame; fields that are missing come last, in the order they are declared. A
-- record may also stand as the list of its fields, and there the order is that of the list.

import DelugeAssist.Record.Mismatch

namespace DelugeAssist

/-- Where in a record a problem lies. -/
inductive Place where
  | member (key : String)
  | item (index : Nat)
  /-- What is not there, or is there once all fields are read. -/
  | absent
deriving DecidableEq, Repr

/-- Whether one place is visited before another. -/
def Place.before : Place → Place → Bool
  | .member a, .member b => decide (a < b)
  | .member _, _ => true
  | .item i, .item j => decide (i < j)
  | .item _, .absent => true
  | _, _ => false

/-- A problem and where it lies. -/
structure Problem where
  place : Place
  mismatch : Mismatch
deriving DecidableEq, Repr

/-- A value that is read, or the first problem on the way. -/
structure Attempt (α : Type) where
  result : Except Problem α

namespace Attempt

variable {α β : Type}

/-- The problem visited first; of two in one place, the first. -/
def firstProblem (a b : Problem) : Problem := if b.place.before a.place then b else a

def fails (place : Place) (mismatch : Mismatch) : Attempt α := ⟨.error ⟨place, mismatch⟩⟩

/-- Both attempts are made, whether or not the first one fails. -/
def both (f : Attempt (α → β)) (x : Attempt α) : Attempt β :=
  ⟨match f.result, x.result with
    | .ok f, .ok x => .ok (f x)
    | .ok _, .error p => .error p
    | .error p, .ok _ => .error p
    | .error p, .error q => .error (firstProblem p q)⟩

instance : Applicative Attempt where
  pure a := ⟨.ok a⟩
  seq f x := both f (x ())

/-- The result with the place of a problem left out. -/
def outcome (attempt : Attempt α) : Except Mismatch α :=
  attempt.result.mapError (·.mismatch)

end Attempt

/-- A record as it stands: by the names of its fields, or as the list of them. -/
inductive Fields (V : Type) where
  | members (members : List (String × V))
  | items (items : List V)

/-- A record that is being read. -/
structure Record (V : Type) where
  owner : String
  /-- The names of the fields, as declared. -/
  names : List String
  fields : Fields V
  /-- Names that are not declared are a problem. -/
  closed : Bool := false
  /-- A list may leave out fields at its end. -/
  lenient : Bool := false
  /-- The record was set aside before it was read, which shows in the words for a long list. -/
  setAside : Bool := false

namespace Record

variable {V α : Type}

/-- What is expected of a list that is too short. -/
def lengthWanted (r : Record V) : String :=
  "struct " ++ r.owner ++ " with " ++ toString r.names.length ++
    (if r.names.length = 1 then " element" else " elements")

/-- What is expected of a list that is too long. -/
def lengthAllowed (r : Record V) : String :=
  if r.setAside then
    toString r.names.length ++
      (if r.names.length = 1 then " element in sequence" else " elements in sequence")
  else "fewer elements in array"

/-- A field that is read where it is present. `none` stands for one that is not. -/
def field? (r : Record V) (name : String) (read : V → Except Mismatch α) :
    Attempt (Option α) :=
  match r.fields with
  | .members members =>
    match members.lookup name with
    | none => pure none
    | some value => ⟨((read value).map some).mapError (⟨.member name, ·⟩)⟩
  | .items items =>
    let index := r.names.idxOf name
    match items[index]? with
    | none =>
      if r.lenient then pure none
      else .fails (.item index) (.wrongLength index r.lengthWanted)
    | some value => ⟨((read value).map some).mapError (⟨.item index, ·⟩)⟩

/-- A field that has to be present. -/
def field (r : Record V) (name : String) (read : V → Except Mismatch α) : Attempt α :=
  ⟨match (r.field? name read).result with
    | .ok (some value) => .ok value
    | .ok none => .error ⟨.absent, .missingField name⟩
    | .error problem => .error problem⟩

/-- The least of the names that are not declared. -/
def leastUnknown? (names : List String) (members : List (String × V)) : Option String :=
  ((members.map (·.1)).filter fun key => !names.contains key).foldl
    (fun least key => match least with
      | none => some key
      | some other => if key < other then some key else some other) none

/-- What stands in the record beside its fields. -/
def leftOver (r : Record V) : Attempt Unit :=
  match r.fields with
  | .members members =>
    if r.closed then
      match leastUnknown? r.names members with
      | some key => .fails (.member key) (.unknownField key r.names)
      | none => pure ()
    else pure ()
  | .items items =>
    if r.names.length < items.length then
      .fails .absent (.wrongLength items.length r.lengthAllowed)
    else pure ()

/-- The record that `build` reads, if nothing is left over. -/
def read (r : Record V) (build : Record V → Attempt α) : Attempt α := build r <* r.leftOver

end Record

end DelugeAssist
