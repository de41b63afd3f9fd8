-- Values that are looked at and not used: each has to be what the protocol says it is.

import DelugeAssist.Protocol.Place
import DelugeAssist.Uri

namespace DelugeAssist

/-- An identifier in a message. -/
def Uri.ofJson (value : Json) : Except Mismatch String := value.readString >>= Uri.read

/-- Whether a value is what it has to be, and why not. -/
abbrev Check := Json → Except Mismatch Unit

namespace Check

/-- A value that can be read. -/
def ofRead {α : Type} (read : Json → Except Mismatch α) : Check :=
  fun value => (read value).map fun _ => ()

def anything : Check := fun _ => .ok ()

def flag : Check := ofRead Json.readBool

def text : Check := ofRead Json.readString

/-- A whole number that tells how many. -/
def count : Check := ofRead Json.readU32

/-- A whole number that stands for one of several things, known or not. -/
def code : Check := ofRead Json.readI32

/-- A number of any kind. -/
def number : Check
  | .int _ => .ok ()
  | .float _ => .ok ()
  | value => value.wrongType "f32"

def uri : Check := ofRead Uri.ofJson

def position : Check := ofRead (Position.ofJson false)

def range : Check := ofRead Range.ofJson

def variant (names : List String) : Check := ofRead (Json.readVariant names)

def list (check : Check) : Check := ofRead (Json.readList check)

/-- A table with keys and values of one kind each. -/
def table (key : String → Except Mismatch Unit) (check : Check) : Check
  | .obj members => members.forM fun (name, value) => key name >>= fun _ => check value
  | value => value.wrongType "a map"

/-- Whether a value passes. -/
def accepts (check : Check) (value : Json) : Bool :=
  match check value with
  | .ok _ => true
  | .error _ => false

/-- A value of one of several forms, which go by a name together. -/
def oneOf (name : String) (forms : List Check) : Check := fun value =>
  if forms.any (·.accepts value) then .ok ()
  else .error (.refused ("data did not match any variant of untagged enum " ++ name))

/-! ## Records -/

/-- Whether a field has to be there. -/
inductive Presence where
  | required
  /-- It may be left out, or be null. -/
  | optional
  /-- It may be left out, also at the end of a list. -/
  | spare
deriving DecidableEq, Repr

/-- A field of a record. -/
structure Field where
  name : String
  presence : Presence
  check : Check

/-- A field that has to be there. -/
def need (name : String) (check : Check) : Field := ⟨name, .required, check⟩

/-- A field that need not be there. -/
def may (name : String) (check : Check) : Field := ⟨name, .optional, check⟩

/-- Fields that are flags and need not be there. -/
def flags (names : List String) : List Field := names.map (may · flag)

/-- The look at one field of a record. -/
def Field.attempt (r : Record Json) (field : Field) : Attempt Unit :=
  match field.presence with
  | .required => r.field field.name field.check
  | .optional => (fun _ => ()) <$> r.optional field.name field.check
  | .spare => (fun _ => ()) <$> ({ r with lenient := true }).field? field.name field.check

/-- The look at fields of a record. -/
def attemptAll (fields : List Field) (r : Record Json) : Attempt Unit :=
  fields.foldl (fun attempt field => attempt <* field.attempt r) (pure ())

/-- A record with its fields. -/
def record (owner : String) (fields : List Field) : Check :=
  Json.readRecord owner (fields.map (·.name)) false (attemptAll fields)

/-- The members of a record, as far as they are these fields. -/
def part (owner : String) (fields : List Field) (members : List (String × Json)) :
    Except Mismatch Unit :=
  Json.readPart owner (fields.map (·.name)) members (attemptAll fields)

/-- A record that is read in parts, fields of its own first, which no list can stand for. -/
def parts (owner : String) (own : List Field)
    (more : List (List (String × Json) → Except Mismatch Unit)) : Check
  | .obj members => part owner own members >>= fun _ => more.forM fun look => look members
  | value => value.wrongType ("struct " ++ owner)

end Check

end DelugeAssist
