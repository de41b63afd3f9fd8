-- The settings: a layer sets some of them, layers are laid over one another, and what no layer sets
-- is on.

namespace DelugeAssist

/-- Some of the settings, as one source gives them (`DelugeSettings`). A field that is not set
leaves the decision to the layers below. -/
structure Layer where
  /-- Insert a method with a place for its arguments. -/
  snippets : Option Bool := none
  /-- Show documentation. -/
  hover : Option Bool := none
  /-- Offer the words of the language. -/
  genericCompletions : Option Bool := none
deriving DecidableEq, Repr

/-- All of the settings (`WorkspaceSettings`). -/
structure Settings where
  snippets : Bool := true
  hover : Bool := true
  genericCompletions : Bool := true
deriving DecidableEq, Repr

namespace Layer

/-- The lowest layer (`default_settings`): every setting is on. -/
def defaults : Layer := ⟨some true, some true, some true⟩

/-- One layer laid onto another: a field is the upper layer's where that sets it. -/
def onto (upper lower : Layer) : Layer where
  snippets := upper.snippets.or lower.snippets
  hover := upper.hover.or lower.hover
  genericCompletions := upper.genericCompletions.or lower.genericCompletions

/-- A layer that may be missing over another that may be (`merge_settings`). -/
def merge : (lower upper : Option Layer) → Option Layer
  | none, none => none
  | some lower, none => some lower
  | none, some upper => some upper
  | some lower, some upper => some (upper.onto lower)

/-- Layers over one another, the last on top (`merge_all`). -/
def mergeAll (layers : List (Option Layer)) : Option Layer := layers.foldl merge none

/-- The settings of a layer: what it does not set is on. -/
def resolve (layer : Layer) : Settings where
  snippets := layer.snippets.getD true
  hover := layer.hover.getD true
  genericCompletions := layer.genericCompletions.getD true

/-- The settings of a layer that may be missing. -/
def resolveOr (layer : Option Layer) : Settings :=
  match layer with
  | some layer => layer.resolve
  | none => {}

/-- A line of a settings file. -/
def settingLine (name : String) : Option Bool → String
  | none => ""
  | some value => name ++ " = " ++ (if value then "true" else "false") ++ "\n"

/-- A layer as a settings file. -/
def toToml (layer : Layer) : String :=
  settingLine "snippets" layer.snippets ++ settingLine "hover" layer.hover ++
    settingLine "genericCompletions" layer.genericCompletions

@[simp] theorem merge_none (lower : Option Layer) : merge lower none = lower := by
  cases lower <;> rfl

@[simp] theorem none_merge (upper : Option Layer) : merge none upper = upper := by
  cases upper <;> rfl

end Layer

end DelugeAssist
