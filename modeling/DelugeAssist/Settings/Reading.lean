-- A layer of settings read from a JSON value or from a settings file. Both name the fields alike,
-- and a name that is no field is a problem.

import DelugeAssist.Json.Typed
import DelugeAssist.Settings.Layer
import DelugeAssist.Toml.Diagnostic
import DelugeAssist.Toml.Reader

namespace DelugeAssist

namespace Layer

/-- What a layer is called where one is expected. -/
def owner : String := "DelugeSettings"

/-- The names of the fields, as declared. -/
def names : List String := ["snippets", "hover", "genericCompletions"]

/-- The layer of a record. A list of fields may end early. -/
def ofFields {V : Type} (readFlag : V → Except Mismatch (Option Bool)) (fields : Fields V) :
    Attempt Layer :=
  ({ owner, names, fields, closed := true, lenient := true } : Record V).read fun r =>
    let flag (name : String) : Attempt (Option Bool) := Option.join <$> r.field? name readFlag
    Layer.mk <$> flag "snippets" <*> flag "hover" <*> flag "genericCompletions"

/-- The layer of a JSON value. A field that is null is not set. -/
def ofJson : Json → Except Mismatch Layer
  | .obj members => (ofFields (Json.readOption Json.readBool) (.members members)).outcome
  | .arr items => (ofFields (Json.readOption Json.readBool) (.items items)).outcome
  | value => value.wrongType ("struct " ++ owner)

/-- The words for a value of a settings file that is no truth value. -/
def flagMismatch (node : Toml.Node) : Mismatch :=
  let unexpected (found : Found) : Mismatch := .wrongType found "a boolean"
  match node with
  | .scalar (.bool value) => unexpected (.bool value)
  | .scalar (.int value) => unexpected (.int value)
  | .scalar (.float value) => unexpected (.float value)
  | .scalar (.str value) => unexpected (.str value)
  | .scalar .datetime => unexpected .map
  | .array _ => unexpected .sequence
  | .tables .. => unexpected .sequence
  | .table .. => unexpected .map

/-- A field of a settings file. -/
def readFlag (value : Toml.Span × Toml.Node) : Except Mismatch (Option Bool) :=
  match value.2 with
  | .scalar (.bool flag) => .ok (some flag)
  | node => .error (flagMismatch node)

/-- The place to show for a problem: the key that is not known, or the value that does not fit. -/
def blamed (entries : Toml.Entries) (problem : Problem) : Toml.Span :=
  let entry? := entries.find? fun entry => problem.place == .member entry.1.name
  match entry?, problem.mismatch with
  | some (key, _), .unknownField .. => key.span
  | some (_, span, _), _ => span
  | none, _ => ⟨0, 0⟩

/-- The layer of a document. -/
def ofEntries (entries : Toml.Entries) : Except Toml.DocumentError Layer :=
  let members := entries.map fun (key, value) => (key.name, value)
  (ofFields readFlag (.members members)).result.mapError fun problem =>
    .unfit (blamed entries problem) problem.mismatch

/-- The layer of a settings file. -/
def ofToml (text : Text) : Except Toml.DocumentError Layer :=
  match Toml.parse? text with
  | none => .error .malformed
  | some entries => ofEntries entries

end Layer

end DelugeAssist
