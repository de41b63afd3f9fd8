-- The server: what it keeps between messages, and what each message does to it. A request is
-- answered from what the server keeps and leaves it as it was.

import DelugeAssist.Completion
import DelugeAssist.Document
import DelugeAssist.Hover
import DelugeAssist.Protocol.Params
import DelugeAssist.Settings.Load
import DelugeAssist.Text.Edit
import DelugeAssist.Url.Reading

namespace DelugeAssist

/-- How much a line of the log matters to the editor (`MessageType`). -/
inductive LogLevel where
  | warning
  | info
  | trace
deriving DecidableEq, Repr

/-- A line for the log of the editor. -/
structure LogLine where
  level : LogLevel
  message : String
deriving DecidableEq, Repr

/-- An event of loading settings as a line of the log (`log_settings_events`). -/
def Event.logLine (event : Event) : LogLine where
  level := match event.level with
    | .info => .info
    | .warning => .warning
  message := event.message

/-- What a session runs on: the files, and the path of the file of the user. -/
structure Surroundings where
  files : Files
  userPath : Option String

/-- What the server keeps between messages (`DelugeLs`). -/
structure Server where
  documents : DocumentStore := {}
  settings : Settings := {}
  /-- The directory of the workspace, once an opening has named one (`root_path`). -/
  root : Option String := none
  /-- Whether the editor can fill in places in inserted text, once an opening has said so: what
  `check_snippet_support` reads in `client_capabilities`. -/
  snippetSupport : Option Bool := none
deriving DecidableEq, Repr

namespace Server

/-- The key of the document that an identifier names (`uri_to_url`). -/
def keyOf (uri : String) : Except ServerError String :=
  match Url.parse uri with
  | .ok url => .ok url.key
  | .error _ => .error (.invalidUri uri)

/-- The document that an identifier names. -/
def document (server : Server) (uri : String) : Except ServerError Document := do
  match server.documents.get? (← keyOf uri) with
  | some document => .ok document
  | none => .error (.documentNotFound uri)

/-! ## Opening a session -/

/-- The path that an identifier names in the file system. -/
def pathOf? (uri : String) : Option String :=
  match Url.parse uri with
  | .ok url => url.filePath?
  | .error _ => none

/-- The directory of the workspace, and which parameter named it (`workspace_root`). The first
folder decides if there is one, even where it is no directory. -/
def rootOf? (opening : Params.Opening) : Option (String × String) :=
  match opening.folders.bind List.head?, opening.rootUri with
  | some folder, _ => (pathOf? folder).map (·, "workspace folders")
  | none, some uri => (pathOf? uri).map (·, "root_uri")
  | none, none => none

/-- What there is to tell about the directory of the workspace. -/
def rootLine : Option (String × String) → LogLine
  | some (path, source) => ⟨.info, "Using workspace root from " ++ source ++ ": " ++ path⟩
  | none => ⟨.info, "No workspace root - project config will not be loaded"⟩

/-- The server with its settings loaded, and what there is to tell about that (`apply_settings` on
what `load_settings` gives). -/
def configure (surroundings : Surroundings) (server : Server) (channel : Layer.Channel)
    (sent : Option Json) : Server × List LogLine :=
  let outcome := Settings.load surroundings.files surroundings.userPath server.root
    (sent.map (channel, ·))
  ({ server with settings := outcome.settings }, outcome.events.map Event.logLine)

/-- A server for a session that opens (`initialize`). What is set stays as it is: the directory of
the workspace and what the editor can do are each set once. -/
def opened (surroundings : Surroundings) (server : Server) (opening : Params.Opening) :
    Server × List LogLine :=
  let root := rootOf? opening
  let server := { server with
    root := server.root.or (root.map Prod.fst)
    snippetSupport := server.snippetSupport.or (some opening.snippetSupport) }
  let (server, lines) := server.configure surroundings .initializationOptions opening.options
  (server, rootLine root :: lines)

theorem root_opened (surroundings : Surroundings) (server : Server) (opening : Params.Opening) :
    (server.opened surroundings opening).1.root =
      server.root.or ((rootOf? opening).map Prod.fst) := rfl

theorem snippetSupport_opened (surroundings : Surroundings) (server : Server)
    (opening : Params.Opening) :
    (server.opened surroundings opening).1.snippetSupport =
      server.snippetSupport.or (some opening.snippetSupport) := rfl

/-! ## Documents -/

/-- A document is opened, in place of any that its identifier names (`did_open`). -/
def didOpen (server : Server) (opened : Params.Opened) : Server :=
  match keyOf opened.uri with
  | .error _ => server
  | .ok key =>
    let document : Document := ⟨opened.text, some opened.version, some opened.language⟩
    { server with documents := server.documents.insert key document }

/-- A document changes (`did_change`). One that is not open stays so, with a warning. -/
def didChange (server : Server) (changed : Params.Changed) : Server × List LogLine :=
  match keyOf changed.uri with
  | .error _ => (server, [])
  | .ok key =>
    match server.documents.get? key with
    | none => (server, [⟨.warning, "Document not found for change event: " ++ key⟩])
    | some document =>
      let text := document.text.applyChanges changed.changes
      ({ server with documents := server.documents.update key text (some changed.version) }, [])

/-- A document is closed (`did_close`). -/
def didClose (server : Server) (uri : String) : Server :=
  match keyOf uri with
  | .error _ => server
  | .ok key => { server with documents := server.documents.erase key }

/-! ## Requests -/

/-- What completion depends on (`completion_options`): the settings, and what the editor can do.
Before an opening has said so, it can do nothing. -/
def completionOptions (server : Server) : Completion.Options where
  snippets := server.settings.snippets && server.snippetSupport.getD false
  generic := server.settings.genericCompletions

/-- The items at a place. A place on a line that is not there counts as the start of one. -/
def completion (server : Server) (spot : Params.Spot) :
    Option (List Completion.Item) × List LogLine :=
  match server.document spot.uri with
  | .error error => (none, [⟨.trace, error.message⟩])
  | .ok document =>
    let left := (document.text.lineBefore? spot.position).getD []
    (Completion.items left server.completionOptions, [])

/-- The documentation at a place, unless it is switched off. -/
def hover (server : Server) (spot : Params.Spot) : Option Hover × List LogLine :=
  if server.settings.hover then
    match server.document spot.uri with
    | .error error => (none, [⟨.trace, error.message⟩])
    | .ok document =>
      match document.text.wordAt? spot.position with
      | none => (none, [])
      | some word => (Hover.ofWord? (String.ofList word.text) word.range, [])
  else (none, [])

/-! ## Any message -/

/-- A message that is understood. -/
inductive Call where
  | opening (opening : Params.Opening)
  | ready
  | didOpen (opened : Params.Opened)
  | didChange (changed : Params.Changed)
  | didClose (uri : String)
  | didConfigure (settings : Json)
  | completion (spot : Params.Spot)
  | hover (spot : Params.Spot)

/-- What a request is answered. -/
inductive Answer where
  | opened
  | items (items : Option (List Completion.Item))
  | hover (hover : Option Hover)
  /-- The message is no request. -/
  | nothing
deriving DecidableEq, Repr

/-- What handling a message leads to. -/
structure Effect where
  server : Server
  answer : Answer := .nothing
  log : List LogLine := []

/-- The handling of a message. -/
def handle (surroundings : Surroundings) (server : Server) : Call → Effect
  | .opening opening =>
    let (server, log) := server.opened surroundings opening
    { server, log, answer := .opened }
  | .ready => { server, log := [⟨.info, "server is ready"⟩] }
  | .didOpen opened => { server := server.didOpen opened }
  | .didChange changed =>
    let (server, log) := server.didChange changed
    { server, log }
  | .didClose uri => { server := server.didClose uri }
  | .didConfigure settings =>
    let (server, log) := server.configure surroundings .clientConfiguration (some settings)
    { server, log }
  | .completion spot =>
    let (items, log) := server.completion spot
    { server, log, answer := .items items }
  | .hover spot =>
    let (hover, log) := server.hover spot
    { server, log, answer := .hover hover }

/-- The handling of messages one after another, each with the files as they are then. -/
def run (server : Server) : List (Surroundings × Call) → Server × List Effect
  | [] => (server, [])
  | (surroundings, call) :: rest =>
    let effect := server.handle surroundings call
    let (last, effects) := run effect.server rest
    (last, effect :: effects)

end Server

end DelugeAssist
