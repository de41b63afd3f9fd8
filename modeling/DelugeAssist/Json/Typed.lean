-- JSON values read as values of a type: scalars, optional values, lists, and records.

import DelugeAssist.Json.Value
import DelugeAssist.Number.Width
import DelugeAssist.Record.Reading

namespace DelugeAssist

namespace Json

variable {α : Type}

/-- A value as it is named where it does not fit. -/
def found : Json → Found
  | .null => .null
  | .bool value => .bool value
  | .int value => .int value
  | .float value => .float value
  | .str value => .str value
  | .arr _ => .sequence
  | .obj _ => .map

def wrongType (value : Json) (expected : String) : Except Mismatch α :=
  .error (.wrongType value.found expected)

def readBool : Json → Except Mismatch Bool
  | .bool value => .ok value
  | value => value.wrongType "a boolean"

def readString : Json → Except Mismatch String
  | .str value => .ok value
  | value => value.wrongType "a string"

/-- A whole number that fits; `name` says into what. -/
def readInt (name : String) (fits : Int → Bool) : Json → Except Mismatch Int
  | .int value => if fits value then .ok value else .error (.wrongValue (.int value) name)
  | value => value.wrongType name

/-- A whole number of 32 bits without a sign. -/
def readU32 (value : Json) : Except Mismatch Nat :=
  (value.readInt "u32" (Width.holdsUnsigned 32)).map Int.toNat

/-- A whole number of 32 bits with a sign. -/
def readI32 (value : Json) : Except Mismatch Int := value.readInt "i32" (Width.holdsSigned 32)

/-- A value that is unset when it is null. -/
def readOption (read : Json → Except Mismatch α) : Json → Except Mismatch (Option α)
  | .null => .ok none
  | value => (read value).map some

/-- A list of values; the first that does not fit is to blame. -/
def readList (read : Json → Except Mismatch α) : Json → Except Mismatch (List α)
  | .arr items => items.mapM read
  | value => value.wrongType "a sequence"

/-- Any value. -/
def readAny (value : Json) : Except Mismatch Json := .ok value

/-- One of the names that a value may have. -/
def readVariant (names : List String) : Json → Except Mismatch String
  | .str name => if names.contains name then .ok name else .error (.unknownVariant name names)
  | .obj [(name, value)] =>
    if names.contains name then
      match value with
      | .null => .ok name
      | _ => value.wrongType "unit"
    else .error (.unknownVariant name names)
  | .obj _ => .error (.wrongValue .map "map with a single key")
  | value => value.wrongType "string or map"

/-- A record, given by name or as a list. `setAside` marks a record within one that is read in
parts. -/
def readRecord (owner : String) (names : List String) (setAside : Bool)
    (build : Record Json → Attempt α) (value : Json) : Except Mismatch α :=
  let read (fields : Fields Json) : Except Mismatch α :=
    (({ owner, names, fields, setAside } : Record Json).read build).outcome
  match value with
  | .obj members => read (.members members)
  | .arr items => read (.items items)
  | value => value.wrongType ("struct " ++ owner)

/-- A part of a record that is read in parts: its fields among all the members. -/
def readPart (owner : String) (names : List String) (members : List (String × Json))
    (build : Record Json → Attempt α) : Except Mismatch α :=
  (({ owner, names, fields := .members members } : Record Json).read build).outcome

/-- The words of a problem with a JSON value. -/
def message (mismatch : Mismatch) : String := mismatch.message numberStyle

end Json

/-- A field that may be left out or null. -/
def Record.optional {α : Type} (r : Record Json) (name : String)
    (read : Json → Except Mismatch α) : Attempt (Option α) :=
  (fun value => value.join) <$> r.field? name (Json.readOption read)

end DelugeAssist
