-- What the messages of the editor carry, read from their parameters. Some records are read in
-- parts: the fields of their own first, then the parts one after another.

import DelugeAssist.Protocol.Abilities

namespace DelugeAssist

namespace Params

variable {α : Type}

/-! ## Documents and places -/

def readDocument : Json → Except Mismatch String :=
  Json.readRecord "TextDocumentIdentifier" ["uri"] true fun r => r.field "uri" Uri.ofJson

/-- A place in a document. -/
structure Spot where
  uri : String
  position : Position
deriving DecidableEq, Repr

/-- The part of a record that names a place in a document. -/
def readSpot (members : List (String × Json)) : Except Mismatch Spot :=
  Json.readPart "TextDocumentPositionParams" ["textDocument", "position"] members fun r =>
    Spot.mk <$> r.field "textDocument" readDocument <*> r.field "position" (Position.ofJson true)

/-- The part of a record that may carry a token for progress under a name. -/
def checkToken (name : String) (members : List (String × Json)) : Except Mismatch Unit :=
  Check.part name [Check.may name Check.numberOrText] members

def checkWorkToken : List (String × Json) → Except Mismatch Unit := checkToken "workDoneToken"

def checkPartToken : List (String × Json) → Except Mismatch Unit := checkToken "partialResultToken"

/-- A record that is read in parts, which no list can stand for. -/
def inParts (owner : String) (read : List (String × Json) → Except Mismatch α) :
    Json → Except Mismatch α
  | .obj members => read members
  | value => value.wrongType ("struct " ++ owner)

def readHover : Json → Except Mismatch Spot :=
  inParts "HoverParams" fun members => do
    let spot ← readSpot members
    checkWorkToken members
    return spot

/-- Why the editor asks for a completion; it is read and not used. -/
def readContext : Json → Except Mismatch Unit :=
  Json.readRecord "CompletionContext" ["triggerKind", "triggerCharacter"] false fun r =>
    (fun _ _ => ()) <$> r.field "triggerKind" Json.readI32 <*>
      r.optional "triggerCharacter" Json.readString

def readCompletion : Json → Except Mismatch Spot :=
  inParts "CompletionParams" fun members => do
    let _ ← Json.readPart "CompletionParams" ["context"] members fun r =>
      r.optional "context" readContext
    let spot ← readSpot members
    checkWorkToken members
    checkPartToken members
    return spot

/-! ## Changes to documents -/

/-- A document that is opened. -/
structure Opened where
  uri : String
  language : String
  version : Int
  text : Text
deriving DecidableEq, Repr

def readOpened : Json → Except Mismatch Opened :=
  Json.readRecord "DidOpenTextDocumentParams" ["textDocument"] false fun r =>
    r.field "textDocument" <|
      Json.readRecord "TextDocumentItem" ["uri", "languageId", "version", "text"] false fun r =>
        (fun uri language version text => ⟨uri, language, version, String.toList text⟩) <$>
          r.field "uri" Uri.ofJson <*> r.field "languageId" Json.readString <*>
          r.field "version" Json.readI32 <*> r.field "text" Json.readString

/-- Changes of a document that is open. -/
structure Changed where
  uri : String
  version : Int
  changes : List Change
deriving DecidableEq, Repr

def readVersioned : Json → Except Mismatch (String × Int) :=
  Json.readRecord "VersionedTextDocumentIdentifier" ["uri", "version"] false fun r =>
    Prod.mk <$> r.field "uri" Uri.ofJson <*> r.field "version" Json.readI32

def readChanged : Json → Except Mismatch Changed :=
  Json.readRecord "DidChangeTextDocumentParams" ["textDocument", "contentChanges"] false fun r =>
    (fun document changes => ⟨document.1, document.2, changes⟩) <$>
      r.field "textDocument" readVersioned <*>
      r.field "contentChanges" (Json.readList Change.ofJson)

def readClosed : Json → Except Mismatch String :=
  Json.readRecord "DidCloseTextDocumentParams" ["textDocument"] false fun r =>
    r.field "textDocument" readDocument

def readConfigured : Json → Except Mismatch Json :=
  Json.readRecord "DidChangeConfigurationParams" ["settings"] false fun r =>
    r.field "settings" Json.readAny

/-- Parameters that carry nothing. -/
def readReady : Json → Except Mismatch Unit :=
  Json.readRecord "InitializedParams" [] false fun _ => pure ()

/-! ## The opening of a session -/

/-- What the editor says about itself and the workspace. -/
structure Opening where
  /-- The identifiers of the workspace folders. -/
  folders : Option (List String) := none
  rootUri : Option String := none
  options : Option Json := none
  /-- The editor can fill in places in inserted text. -/
  snippetSupport : Bool := false
deriving Repr

def readFolder : Json → Except Mismatch String :=
  Json.readRecord "WorkspaceFolder" ["uri", "name"] false fun r =>
    (fun uri _ => uri) <$> r.field "uri" Uri.ofJson <*> r.field "name" Json.readString

def readClientInfo : Json → Except Mismatch Unit :=
  Json.readRecord "ClientInfo" ["name", "version"] false fun r =>
    (fun _ _ => ()) <$> r.field "name" Json.readString <*> r.optional "version" Json.readString

def readOpening : Json → Except Mismatch Opening :=
  inParts "InitializeParams" fun members => do
    let names := ["processId", "rootPath", "rootUri", "initializationOptions", "capabilities",
      "trace", "workspaceFolders", "clientInfo", "locale"]
    let opening ← Json.readPart "InitializeParams" names members fun r =>
      (fun _ _ rootUri options snippetSupport _ folders _ _ =>
        ({ folders, rootUri, options, snippetSupport } : Opening)) <$>
        r.optional "processId" Json.readU32 <*> r.optional "rootPath" Json.readString <*>
        r.optional "rootUri" Uri.ofJson <*> r.optional "initializationOptions" Json.readAny <*>
        r.field "capabilities" Abilities.read <*>
        r.optional "trace" (Json.readVariant ["off", "messages", "verbose"]) <*>
        r.optional "workspaceFolders" (Json.readList readFolder) <*>
        r.optional "clientInfo" readClientInfo <*> r.optional "locale" Json.readString
    checkWorkToken members
    return opening

end Params

end DelugeAssist
