-- The session around the server: which messages are let through, and how each is answered. A
-- session is opened once, shut down once, and left at any time; a message that carries an
-- identifier is a request and gets an answer, any other gets none.

import DelugeAssist.Protocol.Shown
import DelugeAssist.Protocol.Unserved
import DelugeAssist.Session.Server

namespace DelugeAssist

/-- A message of the editor. One without an identifier expects no answer. -/
structure Message where
  method : String
  params : Option Json := none
  id : Option Json := none
deriving Repr

/-- The message that a value spells, if it spells one. -/
def Message.ofJson? (value : Json) : Option Message :=
  match value.member? "method" with
  | some (.str method) => some ⟨method, value.member? "params", value.member? "id"⟩
  | _ => none

/-- Why a request is turned down. -/
inductive Refusal where
  | notOpened
  | outOfPlace
  /-- No method has the name. -/
  | unknownMethod (name : String)
  /-- The method is known, and not served. -/
  | notServed
  | missingParams
  | unexpectedParams (params : Json)
  | unfitParams (mismatch : Mismatch)
deriving Repr

namespace Refusal

def code : Refusal → Int
  | .notOpened => -32002
  | .outOfPlace => -32600
  | .unknownMethod _ => -32601
  | .notServed => -32601
  | .missingParams => -32602
  | .unexpectedParams _ => -32602
  | .unfitParams _ => -32602

def message : Refusal → String
  | .notOpened => "Server not initialized"
  | .outOfPlace => "Invalid request"
  | .unknownMethod _ => "Method not found"
  | .notServed => "Method not found"
  | .missingParams => "Missing params field"
  | .unexpectedParams params => "Unexpected params: " ++ String.ofList params.render
  | .unfitParams mismatch => Json.message mismatch

/-- What goes along with the message. -/
def data? : Refusal → Option Json
  | .unknownMethod name => some (.str name)
  | _ => none

def toJson (refusal : Refusal) : Json :=
  .object <|
    [("code", .int refusal.code), ("message", .str refusal.message)] ++
      (refusal.data?.map fun data => ("data", data)).toList

end Refusal

/-- The answer to a request. -/
structure Response where
  id : Json
  outcome : Except Refusal Json

def Response.toJson (response : Response) : Json :=
  match response.outcome with
  | .ok result => .obj [("id", response.id), ("result", result)]
  | .error refusal => .obj [("error", refusal.toJson), ("id", response.id)]

/-- How far a session has come. -/
inductive Phase where
  | fresh
  | running
  | shutDown
  | exited
deriving DecidableEq, Repr

/-- A session. A fresh one has nothing set that an opening sets. -/
@[ext]
structure Session where
  phase : Phase := .fresh
  server : Server := {}
  unset : phase = .fresh → server.root = none ∧ server.snippetSupport = none := by simp

/-- What a message leads to. -/
structure Reaction where
  session : Session
  response : Option Response := none
  log : List LogLine := []

/-! ## Methods -/

/-- The requests that a running session knows. -/
inductive RequestMethod where
  | completion
  | hover
  /-- A request that is not served. -/
  | other (name : String)
deriving DecidableEq, Repr

/-- The notifications that a running session knows. -/
inductive NoticeMethod where
  | ready
  | didOpen
  | didChange
  | didClose
  | didConfigure
  | other
deriving DecidableEq, Repr

/-- What the name of a method stands for. -/
inductive MethodKind where
  | opening
  | shutdown
  | exit
  | request (method : RequestMethod)
  | notice (method : NoticeMethod)
deriving DecidableEq, Repr

namespace MethodKind

/-- The notifications that are known and change nothing. -/
def unheeded : List String :=
  ["textDocument/willSave", "textDocument/didSave", "notebookDocument/didOpen",
   "notebookDocument/didChange", "notebookDocument/didSave", "notebookDocument/didClose",
   "workspace/didChangeWorkspaceFolders", "workspace/didChangeWatchedFiles",
   "workspace/didCreateFiles", "workspace/didRenameFiles", "workspace/didDeleteFiles"]

/-- What a name stands for, letter case included. -/
def ofName? (name : String) : Option MethodKind :=
  match name with
  | "initialize" => some .opening
  | "shutdown" => some .shutdown
  | "exit" => some .exit
  | "initialized" => some (.notice .ready)
  | "textDocument/didOpen" => some (.notice .didOpen)
  | "textDocument/didChange" => some (.notice .didChange)
  | "textDocument/didClose" => some (.notice .didClose)
  | "workspace/didChangeConfiguration" => some (.notice .didConfigure)
  | "textDocument/completion" => some (.request .completion)
  | "textDocument/hover" => some (.request .hover)
  | name =>
    if (Unserved.check? name).isSome then some (.request (.other name))
    else if unheeded.contains name then some (.notice .other)
    else none

end MethodKind

/-- The call that a notification makes, if its parameters fit. -/
def NoticeMethod.call? (method : NoticeMethod) (params : Json) : Option Server.Call :=
  let fitting {α : Type} (read : Except Mismatch α) (call : α → Server.Call) :
      Option Server.Call :=
    match read with
    | .ok a => some (call a)
    | .error _ => none
  match method with
  | .ready => fitting (Params.readReady params) fun _ => .ready
  | .didOpen => fitting (Params.readOpened params) .didOpen
  | .didChange => fitting (Params.readChanged params) .didChange
  | .didClose => fitting (Params.readClosed params) .didClose
  | .didConfigure => fitting (Params.readConfigured params) .didConfigure
  | .other => none

/-- The call that a request makes, or why it makes none. -/
def RequestMethod.call (method : RequestMethod) (params : Json) : Except Refusal Server.Call :=
  match method with
  | .completion => ((Params.readCompletion params).map .completion).mapError .unfitParams
  | .hover => ((Params.readHover params).map .hover).mapError .unfitParams
  | .other name =>
    match ((Unserved.check? name).getD Check.anything) params with
    | .ok _ => .error .notServed
    | .error mismatch => .error (.unfitParams mismatch)

/-! ## Answers -/

namespace Session

/-- What the server says it can do, and what it is called. -/
def greeting : Json :=
  .object
    [("capabilities", .object
      [("completionProvider", .obj [("triggerCharacters", .arr [.str "."])]),
       ("hoverProvider", .bool true),
       ("textDocumentSync", .object [("change", .int 2), ("openClose", .bool true)])]),
     ("serverInfo", .object [("name", .str "deluge-ls"), ("version", .str "0.1.0")])]

def answerJson : Server.Answer → Json
  | .opened => greeting
  | .items items => Completion.toJson items
  | .hover none => .null
  | .hover (some hover) => hover.toJson
  | .nothing => .null

/-- The answer to a message, where it expects one. -/
def respond (message : Message) (outcome : Except Refusal Json) : Option Response :=
  message.id.map (⟨·, outcome⟩)

/-- The session as it was, with a refusal where an answer is expected. -/
def refuse (session : Session) (message : Message) (refusal : Refusal) : Reaction :=
  { session, response := respond message (.error refusal) }

/-- Why a session that is not running lets nothing through. -/
def closedBecause (session : Session) : Refusal :=
  match session.phase with
  | .fresh => .notOpened
  | _ => .outOfPlace

/-- The parameters of a message, which have to be there. -/
def given (message : Message) : Except Refusal Json :=
  match message.params with
  | some params => .ok params
  | none => .error .missingParams

/-- The handling of a call by the server of a session that runs, with its answer. -/
def perform (surroundings : Surroundings) (server : Server) (message : Message)
    (call : Server.Call) : Reaction :=
  let effect := server.handle surroundings call
  { session := { phase := .running, server := effect.server }
    response := respond message (.ok (answerJson effect.answer))
    log := effect.log }

/-- The opening of a session. It opens only if the parameters fit. -/
def begin (surroundings : Surroundings) (session : Session) (message : Message) : Reaction :=
  if session.phase ≠ .fresh then session.refuse message .outOfPlace
  else if message.id.isNone then { session }
  else
    match (given message).bind fun params => (Params.readOpening params).mapError .unfitParams with
    | .error refusal => session.refuse message refusal
    | .ok opening => perform surroundings session.server message (.opening opening)

/-- The end of the work. Parameters are refused, and the work ends all the same. -/
def finish (session : Session) (message : Message) : Reaction :=
  if session.phase ≠ .running then session.refuse message session.closedBecause
  else
    let outcome : Except Refusal Json := match message.params with
      | none => .ok .null
      | some .null => .ok .null
      | some params => .error (.unexpectedParams params)
    { session := { phase := .shutDown, server := session.server }
      response := respond message outcome }

/-- A request to a running session. -/
def request (surroundings : Surroundings) (session : Session) (message : Message)
    (method : RequestMethod) : Reaction :=
  if session.phase ≠ .running then session.refuse message session.closedBecause
  else if message.id.isNone then { session }
  else
    match (given message).bind method.call with
    | .error refusal => session.refuse message refusal
    | .ok call => perform surroundings session.server message call

/-- A notification to a running session. One that carries an identifier is refused. -/
def notice (surroundings : Surroundings) (session : Session) (message : Message)
    (method : NoticeMethod) : Reaction :=
  if session.phase ≠ .running then session.refuse message session.closedBecause
  else if message.id.isSome then session.refuse message .outOfPlace
  else
    match message.params.bind method.call? with
    | none => { session }
    | some call => perform surroundings session.server message call

/-- The notification that calls off a request. It is at home with or without a session. -/
def cancelName : String := "$/cancelRequest"

/-- What a message leads to. Nothing follows once a session is left. -/
def receive (surroundings : Surroundings) (session : Session) (message : Message) : Reaction :=
  if session.phase = .exited then { session }
  else if message.method = cancelName then session.refuse message .outOfPlace
  else
    match MethodKind.ofName? message.method with
    | some .opening => session.begin surroundings message
    | some .shutdown => session.finish message
    | some .exit => { session := { phase := .exited, server := session.server } }
    | some (.request method) => session.request surroundings message method
    | some (.notice method) => session.notice surroundings message method
    | none =>
      if message.method.startsWith "$/" then { session }
      else session.refuse message (.unknownMethod message.method)

end Session

/-! ## Notifications of the server -/

/-- The number of a level. -/
def LogLevel.number : LogLevel → Nat
  | .warning => 2
  | .info => 3
  | .trace => 4

/-- A line of the log as a message to the editor. -/
def LogLine.toJson (line : LogLine) : Json :=
  .object
    [("method", .str "window/logMessage"),
     ("params", .object [("message", .str line.message), ("type", .int line.level.number)])]

end DelugeAssist
