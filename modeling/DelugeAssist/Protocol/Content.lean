-- What editors and servers send each other about documents: edits, commands, diagnostics, items and
-- hints. The server looks at them and uses none.

import DelugeAssist.Protocol.Check

namespace DelugeAssist

namespace Check

/-- A token or a code: a whole number or a text. -/
def numberOrText : Check := oneOf "NumberOrString" [code, text]

/-! ## Places and texts -/

def document : Check := record "TextDocumentIdentifier" [need "uri" uri]

def location : Check := record "Location" [need "uri" uri, need "range" range]

def markupKinds : List String := ["plaintext", "markdown"]

def markup : Check :=
  record "MarkupContent" [need "kind" (variant markupKinds), need "value" text]

/-- A text, plain or marked up, which goes by a name. -/
def textOrMarkup (name : String) : Check := oneOf name [text, markup]

def command : Check :=
  record "Command" [need "title" text, need "command" text, may "arguments" (list anything)]

/-! ## Edits -/

def textEdit : Check := record "TextEdit" [need "range" range, need "newText" text]

/-- An edit with a place of its own for an insertion and for a replacement. -/
def insertReplaceEdit : Check :=
  record "InsertReplaceEdit" [need "newText" text, need "insert" range, need "replace" range]

/-- Edits of one version of a document. Those with an annotation pass as edits without. -/
def documentEdit : Check :=
  record "TextDocumentEdit"
    [need "textDocument" <|
      record "OptionalVersionedTextDocumentIdentifier" [need "uri" uri, may "version" code],
     need "edits" (list textEdit)]

def overwriteOptions (owner : String) : Check :=
  record owner (flags ["overwrite", "ignoreIfExists"])

/-- What happens to a file, by its kind. -/
def fileOperation? : String → Option Check
  | "create" => some <| record "CreateFile"
      [need "uri" uri, may "options" (overwriteOptions "CreateFileOptions"),
       may "annotationId" text]
  | "rename" => some <| record "RenameFile"
      [need "oldUri" uri, need "newUri" uri,
       may "options" (overwriteOptions "RenameFileOptions"), may "annotationId" text]
  | "delete" => some <| record "DeleteFile"
      [need "uri" uri,
       may "options" <| record "DeleteFileOptions"
        (flags ["recursive", "ignoreIfNotExists"] ++ [may "annotationId" text])]
  | _ => none

/-- Whether a value says what happens to a file. A list names the kind first. -/
def isFileOperation (value : Json) : Bool :=
  let passes (kind : Json) (rest : Json) : Bool :=
    match kind with
    | .str kind => ((fileOperation? kind).map (·.accepts rest)).getD false
    | _ => false
  match value with
  | .obj members => passes ((members.lookup "kind").getD .null) value
  | .arr (kind :: rest) => passes kind (.arr rest)
  | _ => false

/-- What changes in the documents of a workspace, step by step. -/
def documentChanges : Check :=
  let step : Check := fun value =>
    if isFileOperation value then .ok () else documentEdit value
  oneOf "DocumentChanges" [list step]

def workspaceEdit : Check :=
  record "WorkspaceEdit"
    [⟨"changes", .spare, fun value =>
      ofRead (Json.readOption (table (fun key => (Uri.read key).map fun _ => ()) (list textEdit)))
        value⟩,
     may "documentChanges" documentChanges,
     may "changeAnnotations" <| table (fun _ => .ok ()) <|
      record "ChangeAnnotation"
        [need "label" text, may "needsConfirmation" flag, may "description" text]]

/-! ## Diagnostics and actions -/

def diagnostic : Check :=
  record "Diagnostic"
    [need "range" range, may "severity" code, may "code" numberOrText,
     may "codeDescription" (record "CodeDescription" [need "href" uri]), may "source" text,
     need "message" text,
     may "relatedInformation" <| list <|
      record "DiagnosticRelatedInformation" [need "location" location, need "message" text],
     may "tags" (list code), may "data" anything]

def codeAction : Check :=
  record "CodeAction"
    [need "title" text, may "kind" text, may "diagnostics" (list diagnostic),
     may "edit" workspaceEdit, may "command" command, may "isPreferred" flag,
     may "disabled" (record "CodeActionDisabled" [need "reason" text]), may "data" anything]

/-! ## Items -/

def completionItem : Check :=
  record "CompletionItem"
    [need "label" text,
     may "labelDetails"
      (record "CompletionItemLabelDetails" [may "detail" text, may "description" text]),
     may "kind" code, may "detail" text, may "documentation" (textOrMarkup "Documentation"),
     may "deprecated" flag, may "preselect" flag, may "sortText" text, may "filterText" text,
     may "insertText" text, may "insertTextFormat" code, may "insertTextMode" code,
     may "textEdit" (oneOf "CompletionTextEdit" [textEdit, insertReplaceEdit]),
     may "additionalTextEdits" (list textEdit), may "command" command,
     may "commitCharacters" (list text), may "data" anything, may "tags" (list code)]

def codeLens : Check :=
  record "CodeLens" [need "range" range, may "command" command, may "data" anything]

def documentLink : Check :=
  record "DocumentLink"
    [need "range" range, may "target" uri, may "tooltip" text, may "data" anything]

def inlayHint : Check :=
  let labelPart : Check := record "InlayHintLabelPart"
    [need "value" text, may "tooltip" (textOrMarkup "InlayHintLabelPartTooltip"),
     may "location" location, may "command" command]
  record "InlayHint"
    [need "position" position, need "label" (oneOf "InlayHintLabel" [text, list labelPart]),
     may "kind" code, may "textEdits" (list textEdit),
     may "tooltip" (textOrMarkup "InlayHintTooltip"), may "paddingLeft" flag,
     may "paddingRight" flag, may "data" anything]

/-- A function or type that stands in a hierarchy. -/
def hierarchyItem (owner : String) (tags : Check) : Check :=
  record owner
    [need "name" text, need "kind" code, may "tags" tags, may "detail" text, need "uri" uri,
     need "range" range, need "selectionRange" range, may "data" anything]

def workspaceSymbol : Check :=
  let document : Check := record "WorkspaceLocation" [need "uri" uri]
  record "WorkspaceSymbol"
    [need "name" text, need "kind" code, may "tags" (list code), may "containerName" text,
     need "location" (oneOf "OneOf" [location, document]), may "data" anything]

/-! ## Signatures -/

/-- The help about a call that is shown already. -/
def signatureHelp : Check :=
  let ends : Check
    | .arr [start, stop] => count start >>= fun _ => count stop
    | value => value.wrongType "an array of length 2"
  let parameter : Check := record "ParameterInformation"
    [need "label" (oneOf "ParameterLabel" [text, ends]),
     may "documentation" (textOrMarkup "Documentation")]
  let signature : Check := record "SignatureInformation"
    [need "label" text, may "documentation" (textOrMarkup "Documentation"),
     may "parameters" (list parameter), may "activeParameter" count]
  record "SignatureHelp"
    [need "signatures" (list signature), may "activeSignature" count,
     may "activeParameter" count]

/-! ## Formatting -/

/-- How a document is laid out. Settings of other names are flags, numbers or texts. -/
def layout : Check
  | .obj members => do
    let own := [need "tabSize" count, need "insertSpaces" flag] ++
      flags ["trimTrailingWhitespace", "insertFinalNewline", "trimFinalNewlines"]
    part "FormattingOptions" own members
    members.forM fun (name, value) =>
      if own.any (·.name == name) then .ok ()
      else oneOf "FormattingProperty" [flag, code, text] value
  | value => value.wrongType "struct FormattingOptions"

end Check

end DelugeAssist
