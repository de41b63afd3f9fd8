-- Loading the settings: the layers of all sources over the defaults, with an event for each source
-- that is there. A source that does not fit gives a warning and no layer, so it sets nothing and
-- takes nothing from the others.

import DelugeAssist.Settings.Source

namespace DelugeAssist

/-- How much an event matters (`SettingsEventKind`). -/
inductive EventLevel where
  | info
  | warning
deriving DecidableEq, Repr

/-- Something to tell about the loading of settings (`SettingsEvent`). -/
structure Event where
  level : EventLevel
  message : String
deriving DecidableEq, Repr

namespace Settings

/-- What one source gives: a layer, and an event. Neither, where there is no source. -/
structure Part where
  layer : Option Layer := none
  event : Option Event := none
deriving DecidableEq, Repr

/-- A source that is there and fits. -/
def Part.loaded (layer : Layer) (message : String) : Part := ⟨some layer, some ⟨.info, message⟩⟩

/-- A source that is there and does not fit. -/
def Part.refused (message : String) : Part := ⟨none, some ⟨.warning, message⟩⟩

/-- The part of the user: `load_user_config`, as `load_settings` tells of it. -/
def userPart (files : Files) (path : Option String) : Part :=
  match Layer.ofUserFile files path with
  | .ok none => {}
  | .ok (some layer) => .loaded layer "Loaded user config from XDG_CONFIG_HOME"
  | .error error => .refused ("Failed to load user config: " ++ error.message)

/-- The part of the project: `load_project_settings`, as `load_settings` tells of it. -/
def projectPart (files : Files) (root : Option String) : Part :=
  match root with
  | none => {}
  | some root =>
    match Layer.ofProjectFile files root with
    | .ok none => {}
    | .ok (some layer) => .loaded layer ("Loaded " ++ Layer.projectPath root)
    | .error error => .refused error.message

/-- The part of the editor (`parse_override_settings`). -/
def sentPart (sent : Option (Layer.Channel × Json)) : Part :=
  match sent with
  | none => {}
  | some (channel, value) =>
    match Layer.section? value with
    | none => {}
    | some value =>
      match Layer.ofJson value with
      | .ok layer => .loaded layer ("Parsed " ++ channel.description ++ " as deluge-ls settings")
      | .error mismatch =>
        .refused ("Failed to parse " ++ channel.description ++ ": " ++ Json.message mismatch)

/-- Settings with what there is to tell about their loading (`SettingsLoadOutcome`). -/
structure Outcome where
  settings : Settings
  events : List Event
deriving DecidableEq, Repr

/-- The settings of parts, the last on top. -/
def combine (parts : List Part) : Outcome where
  settings := Layer.resolveOr (Layer.mergeAll (some Layer.defaults :: parts.map (·.layer)))
  events := parts.filterMap (·.event)

/-- The settings of the user, under those of the project, under those that the editor sent
(`load_settings`). -/
def load (files : Files) (userPath root : Option String) (sent : Option (Layer.Channel × Json)) :
    Outcome :=
  combine [userPart files userPath, projectPart files root, sentPart sent]

end Settings

end DelugeAssist
