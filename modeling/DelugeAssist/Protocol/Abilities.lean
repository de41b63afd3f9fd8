-- What an editor says that it can do. Only one thing matters to the server: whether inserted text
-- may have places to fill in. All else is looked at.

import DelugeAssist.Protocol.Content

namespace DelugeAssist

namespace Abilities

open Check

/-! ## Pieces that occur more than once -/

def dynamic : Field := may "dynamicRegistration" flag

/-- An ability that may be switched on and off, and no more. -/
def dynamicOnly : Check := record "DynamicRegistrationClientCapabilities" [dynamic]

/-- A list of numbers that stand for things. -/
def codes : Check := list code

/-- The tags that are known. Some editors send a flag instead. -/
def tags : Field :=
  ⟨"tagSupport", .spare, fun value =>
    match value with
    | .null => .ok ()
    | .bool _ => .ok ()
    | value => record "TagSupport" [need "valueSet" codes] value⟩

/-- The parts of a thing that may be asked for later. -/
def resolving (owner : String) : Field :=
  may "resolveSupport" (record owner [need "properties" (list text)])

def symbolKinds : Field :=
  may "symbolKind" (record "SymbolKindCapability" [may "valueSet" codes])

def markupFormats : Check := list (variant markupKinds)

def refreshing (name owner : String) : Field :=
  may name (record owner [may "refreshSupport" flag])

/-! ## Workspace -/

def workspaceEdit : Check :=
  record "WorkspaceEditClientCapabilities"
    [may "documentChanges" flag,
     may "resourceOperations" (list (variant ["create", "rename", "delete"])),
     may "failureHandling"
      (variant ["abort", "transactional", "textOnlyTransactional", "undo"]),
     may "normalizesLineEndings" flag,
     may "changeAnnotationSupport"
      (record "ChangeAnnotationWorkspaceEditClientCapabilities" [may "groupsOnLabel" flag])]

def workspace : Check :=
  record "WorkspaceClientCapabilities"
    [may "applyEdit" flag, may "workspaceEdit" workspaceEdit,
     may "didChangeConfiguration" dynamicOnly,
     may "didChangeWatchedFiles" <| record "DidChangeWatchedFilesClientCapabilities"
      [dynamic, may "relativePatternSupport" flag],
     may "symbol" <| record "WorkspaceSymbolClientCapabilities"
      [dynamic, symbolKinds, tags, resolving "WorkspaceSymbolResolveSupportCapability"],
     may "executeCommand" dynamicOnly, may "workspaceFolders" flag, may "configuration" flag,
     refreshing "semanticTokens" "SemanticTokensWorkspaceClientCapabilities",
     refreshing "codeLens" "CodeLensWorkspaceClientCapabilities",
     may "fileOperations" <| record "WorkspaceFileOperationsClientCapabilities"
      (dynamic :: flags
        ["didCreate", "willCreate", "didRename", "willRename", "didDelete", "willDelete"]),
     refreshing "inlineValue" "InlineValueWorkspaceClientCapabilities",
     refreshing "inlayHint" "InlayHintWorkspaceClientCapabilities",
     refreshing "diagnostic" "DiagnosticWorkspaceClientCapabilities"]

/-! ## Completion -/

/-- What of a completion item is understood, beside places to fill in. -/
def itemFields : List Field :=
  [may "commitCharactersSupport" flag, may "documentationFormat" markupFormats,
   may "deprecatedSupport" flag, may "preselectSupport" flag, tags,
   may "insertReplaceSupport" flag, resolving "CompletionItemCapabilityResolveSupport",
   may "insertTextModeSupport" (record "InsertTextModeSupport" [need "valueSet" codes]),
   may "labelDetailsSupport" flag]

/-- Whether inserted text may have places to fill in. -/
def readItem : Json → Except Mismatch Bool :=
  Json.readRecord "CompletionItemCapability" ("snippetSupport" :: itemFields.map (·.name)) false
    fun r => (·.getD false) <$> r.optional "snippetSupport" Json.readBool <*
      attemptAll itemFields r

def readCompletion : Json → Except Mismatch Bool :=
  Json.readRecord "CompletionClientCapabilities"
    ["dynamicRegistration", "completionItem", "completionItemKind", "contextSupport",
      "insertTextMode", "completionList"] false fun r =>
    (·.getD false) <$> r.optional "completionItem" readItem <* attemptAll
      [dynamic,
       may "completionItemKind" (record "CompletionItemKindCapability" [may "valueSet" codes]),
       may "contextSupport" flag, may "insertTextMode" code,
       may "completionList" (record "CompletionListCapability" [may "itemDefaults" (list text)])] r

/-! ## Documents -/

def signatureHelp : Check :=
  record "SignatureHelpClientCapabilities"
    [dynamic,
     may "signatureInformation" <| record "SignatureInformationSettings"
      [may "documentationFormat" markupFormats,
       may "parameterInformation"
        (record "ParameterInformationSettings" [may "labelOffsetSupport" flag]),
       may "activeParameterSupport" flag],
     may "contextSupport" flag]

def documentSymbol : Check :=
  record "DocumentSymbolClientCapabilities"
    [dynamic, symbolKinds, may "hierarchicalDocumentSymbolSupport" flag, tags]

/-- The way to a declaration or a definition. -/
def goto : Check := record "GotoCapability" [dynamic, may "linkSupport" flag]

def codeAction : Check :=
  record "CodeActionClientCapabilities"
    [dynamic,
     may "codeActionLiteralSupport" <| record "CodeActionLiteralSupport"
      [need "codeActionKind"
        (record "CodeActionKindLiteralSupport" [need "valueSet" (list text)])],
     may "isPreferredSupport" flag, may "disabledSupport" flag, may "dataSupport" flag,
     resolving "CodeActionCapabilityResolveSupport", may "honorsChangeAnnotations" flag]

def rename : Check :=
  record "RenameClientCapabilities"
    [dynamic, may "prepareSupport" flag, may "prepareSupportDefaultBehavior" code,
     may "honorsChangeAnnotations" flag]

def publishDiagnostics : Check :=
  record "PublishDiagnosticsClientCapabilities"
    [may "relatedInformation" flag, tags, may "versionSupport" flag,
     may "codeDescriptionSupport" flag, may "dataSupport" flag]

def foldingRange : Check :=
  record "FoldingRangeClientCapabilities"
    [dynamic, may "rangeLimit" count, may "lineFoldingOnly" flag,
     may "foldingRangeKind" <| record "FoldingRangeKindCapability"
      [may "valueSet" (list (variant ["comment", "imports", "region"]))],
     may "foldingRange" (record "FoldingRangeCapability" [may "collapsedText" flag])]

def semanticTokens : Check :=
  let whole : Check := oneOf "SemanticTokensFullOptions"
    [flag, record "SemanticTokensFullOptions" [may "delta" flag]]
  record "SemanticTokensClientCapabilities"
    ([dynamic,
      need "requests" <| record "SemanticTokensClientCapabilitiesRequests"
        [may "range" flag, may "full" whole],
      need "tokenTypes" (list text), need "tokenModifiers" (list text),
      need "formats" (list text)] ++
      flags ["overlappingTokenSupport", "multilineTokenSupport", "serverCancelSupport",
        "augmentsSyntaxTokens"])

/-- What can be done with a document, before completion and after it. -/
def documentFields : List Field × List Field :=
  ([may "synchronization" <| record "TextDocumentSyncClientCapabilities"
      (flags ["dynamicRegistration", "willSave", "willSaveWaitUntil", "didSave"])],
   [may "hover" (record "HoverClientCapabilities" [dynamic, may "contentFormat" markupFormats]),
    may "signatureHelp" signatureHelp, may "references" dynamicOnly,
    may "documentHighlight" dynamicOnly, may "documentSymbol" documentSymbol,
    may "formatting" dynamicOnly, may "rangeFormatting" dynamicOnly,
    may "onTypeFormatting" dynamicOnly, may "declaration" goto, may "definition" goto,
    may "typeDefinition" goto, may "implementation" goto, may "codeAction" codeAction,
    may "codeLens" dynamicOnly,
    may "documentLink"
      (record "DocumentLinkClientCapabilities" [dynamic, may "tooltipSupport" flag]),
    may "colorProvider" dynamicOnly, may "rename" rename,
    may "publishDiagnostics" publishDiagnostics, may "foldingRange" foldingRange,
    may "selectionRange" (record "SelectionRangeClientCapabilities" [dynamic]),
    may "linkedEditingRange" dynamicOnly, may "callHierarchy" dynamicOnly,
    may "semanticTokens" semanticTokens, may "moniker" dynamicOnly,
    may "typeHierarchy" dynamicOnly, may "inlineValue" dynamicOnly,
    may "inlayHint" <| record "InlayHintClientCapabilities"
      [dynamic, resolving "InlayHintResolveClientCapabilities"],
    may "diagnostic" <| record "DiagnosticClientCapabilities"
      [dynamic, may "relatedDocumentSupport" flag],
    may "inlineCompletion" (record "InlineCompletionClientCapabilities" [dynamic])])

def readDocument : Json → Except Mismatch Bool :=
  let (before, after) := documentFields
  Json.readRecord "TextDocumentClientCapabilities"
    (before.map (·.name) ++ "completion" :: after.map (·.name)) false fun r =>
    (·.getD false) <$> r.optional "completion" readCompletion <* attemptAll (before ++ after) r

/-! ## All abilities -/

def notebooks : Check :=
  record "NotebookDocumentClientCapabilities"
    [need "synchronization" <| record "NotebookDocumentSyncClientCapabilities"
      [dynamic, may "executionSummaryReport" flag]]

def window : Check :=
  let actionItem : Check :=
    record "MessageActionItemCapabilities" [may "additionalPropertiesSupport" flag]
  record "WindowClientCapabilities"
    [may "workDoneProgress" flag,
     may "showMessage"
      (record "ShowMessageRequestClientCapabilities" [may "messageActionItem" actionItem]),
     may "showDocument" (record "ShowDocumentClientCapabilities" [need "support" flag])]

def general : Check :=
  record "GeneralClientCapabilities"
    [may "regularExpressions" <| record "RegularExpressionsClientCapabilities"
      [need "engine" text, may "version" text],
     may "markdown" <| record "MarkdownClientCapabilities"
      [need "parser" text, may "version" text, may "allowedTags" (list text)],
     may "staleRequestSupport" <| record "StaleRequestSupportClientCapabilities"
      [need "cancel" flag, need "retryOnContentModified" (list text)],
     may "positionEncodings" (list text)]

/-- Whether inserted text may have places to fill in, by all that an editor says it can do. -/
def read : Json → Except Mismatch Bool :=
  Json.readRecord "ClientCapabilities"
    ["workspace", "textDocument", "notebookDocument", "window", "general", "offsetEncoding",
      "experimental"] false fun r =>
    (·.getD false) <$> r.optional "textDocument" readDocument <* attemptAll
      [may "workspace" workspace, may "notebookDocument" notebooks, may "window" window,
       may "general" general, may "offsetEncoding" (list text), may "experimental" anything] r

end Abilities

end DelugeAssist
