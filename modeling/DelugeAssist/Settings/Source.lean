-- Where settings come from: the file of the user, the file of the project, and what the editor
-- sends. Each source that is there gives a layer or a warning, never both, and always one event.

import DelugeAssist.Files.State
import DelugeAssist.Settings.Reading

namespace DelugeAssist

/-- Something that goes wrong around an answer (`LspError`). -/
inductive ServerError where
  | configuration (message : String)
  | documentNotFound (uri : String)
  | invalidUri (uri : String)
  | io (reason : String)
deriving DecidableEq, Repr

/-- An error in words. -/
def ServerError.message : ServerError → String
  | .configuration message => "Invalid configuration: " ++ message
  | .documentNotFound uri => "Document not found: " ++ uri
  | .invalidUri uri => "Invalid URI: " ++ uri
  | .io reason => "IO error: " ++ reason

/-- Why the file of the user gives no layer (`UserConfigError`). -/
inductive UserFileError where
  | unreadable (path reason : String)
  | unfit (path diagnosis : String)
deriving DecidableEq, Repr

/-- An error in words. -/
def UserFileError.message : UserFileError → String
  | .unreadable path reason => "failed to read " ++ path ++ ": " ++ reason
  | .unfit path diagnosis => "failed to parse " ++ path ++ ": " ++ diagnosis

/-- The variables that say where the file of the user lies. -/
structure Environment where
  configHome : Option String := none
  home : Option String := none
deriving DecidableEq, Repr

namespace Layer

/-! ## The two files -/

/-- The name of a settings file (`CONFIG_FILE_NAME`). -/
def fileName : String := "deluge-ls.toml"

/-- The path of the file of the user (`user_config_path`): under the directory for configuration
where that is named, and under `.config` in the home directory where not. -/
def userPath? (environment : Environment) : Option String :=
  let given (value : Option String) : Option String := value.filter fun path => !path.isEmpty
  let base := (given environment.configHome).or
    ((given environment.home).map fun home => joinPath home ".config")
  base.map fun base => joinPath (joinPath base "deluge-ls") fileName

/-- The path of the file of a project. -/
def projectPath (root : String) : String := joinPath root fileName

/-- The layer of the file of the user, if there is such a file (`load_user_config`). -/
def ofUserFile (files : Files) (path : Option String) : Except UserFileError (Option Layer) :=
  match path with
  | none => .ok none
  | some path =>
    match files path with
    | .absent => .ok none
    | state =>
      match state.text with
      | .error reason => .error (.unreadable path reason)
      | .ok text =>
        match ofToml text with
        | .error problem => .error (.unfit path (problem.message text))
        | .ok layer => .ok (some layer)

/-- The layer of the file of a project, if there is such a file (`load_project_settings`). -/
def ofProjectFile (files : Files) (root : String) : Except ServerError (Option Layer) :=
  match files (projectPath root) with
  | .absent => .ok none
  | state =>
    match state.text with
    | .error reason => .error (.io reason)
    | .ok text =>
      match ofToml text with
      | .error problem =>
        .error (.configuration
          ("Failed to parse " ++ projectPath root ++ ": " ++ problem.message text))
      | .ok layer => .ok (some layer)

/-! ## What the editor sends -/

/-- How the editor sent settings (`SettingsSource`). -/
inductive Channel where
  | initializationOptions
  | clientConfiguration
deriving DecidableEq, Repr

def Channel.description : Channel → String
  | .initializationOptions => "initialization options"
  | .clientConfiguration => "client configuration"

/-- The part of a sent value that is about these settings: what stands under their name, and else
the value itself. Null is no settings at all. -/
def section? : Json → Option Json
  | .null => none
  | .obj members => some ((members.lookup "deluge").getD (.obj members))
  | value => some value

end Layer

end DelugeAssist
