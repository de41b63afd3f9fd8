-- Requests that are known and not served. Their parameters are looked at before they are turned
-- down.

import DelugeAssist.Protocol.Params

namespace DelugeAssist

namespace Unserved

open Check

/-- A part of the parameters of a request. -/
abbrev Part := List (String × Json) → Except Mismatch Unit

/-- A place in a document. -/
def spot : Part := fun members => (Params.readSpot members).map fun _ => ()

/-- A token for the progress of the work. -/
def work : Part := Params.checkWorkToken

/-- A token for results that come in parts. -/
def gradual : Part := Params.checkPartToken

/-! ## Parameters by their form -/

/-- A place in a document, and what else is needed there. -/
def atSpot (owner : String) (own : List Field) (more : List Part) : Check :=
  parts owner own (spot :: more)

/-- A document, and what else is needed about it. -/
def aboutDocument (owner : String) (own : List Field) (more : List Part) : Check :=
  parts owner (need "textDocument" document :: own) more

/-- A document, its results whole or in parts. -/
def wholeDocument (owner : String) : Check := aboutDocument owner [] [work, gradual]

/-- Files that are about to change, each with its identifiers, which may be any texts. -/
def files (owner item : String) (names : List String) : Check :=
  record owner [need "files" (list (record item (names.map (need · text))))]

/-- An item of a hierarchy whose neighbours are asked for. -/
def neighbours (owner : String) (item : Check) : Check :=
  parts owner [need "item" item] [work, gradual]

def callItem : Check := hierarchyItem "CallHierarchyItem" (list code)

def typeItem : Check := hierarchyItem "TypeHierarchyItem" code

/-! ## Parameters by their method -/

/-- Requests about a place in a document. -/
def spotChecks : List (String × Check) :=
  let goto : Check := atSpot "GotoDefinitionParams" [] [work, gradual]
  [("textDocument/declaration", goto), ("textDocument/definition", goto),
   ("textDocument/typeDefinition", goto), ("textDocument/implementation", goto),
   ("textDocument/references",
    atSpot "ReferenceParams"
      [need "context" (record "ReferenceContext" [need "includeDeclaration" flag])]
      [work, gradual]),
   ("textDocument/documentHighlight",
    atSpot "DocumentHighlightParams" [] [work, gradual]),
   ("textDocument/moniker", atSpot "MonikerParams" [] [work, gradual]),
   ("textDocument/linkedEditingRange", atSpot "LinkedEditingRangeParams" [] [work]),
   ("textDocument/prepareCallHierarchy", atSpot "CallHierarchyPrepareParams" [] [work]),
   ("textDocument/prepareTypeHierarchy", atSpot "TypeHierarchyPrepareParams" [] [work]),
   ("textDocument/signatureHelp",
    atSpot "SignatureHelpParams"
      [may "context" <| record "SignatureHelpContext"
        [need "triggerKind" code, may "triggerCharacter" text, need "isRetrigger" flag,
         may "activeSignatureHelp" signatureHelp]]
      [work]),
   ("textDocument/onTypeFormatting",
    atSpot "DocumentOnTypeFormattingParams" [need "ch" text, need "options" layout] []),
   ("textDocument/rename", atSpot "RenameParams" [need "newName" text] [work]),
   ("textDocument/prepareRename",
    record "TextDocumentPositionParams"
      [need "textDocument" document, need "position" position])]

/-- Requests about a document. -/
def documentChecks : List (String × Check) :=
  [("textDocument/documentSymbol", wholeDocument "DocumentSymbolParams"),
   ("textDocument/foldingRange", wholeDocument "FoldingRangeParams"),
   ("textDocument/codeLens", wholeDocument "CodeLensParams"),
   ("textDocument/documentLink", wholeDocument "DocumentLinkParams"),
   ("textDocument/documentColor", wholeDocument "DocumentColorParams"),
   ("textDocument/semanticTokens/full", wholeDocument "SemanticTokensParams"),
   ("textDocument/semanticTokens/full/delta",
    aboutDocument "SemanticTokensDeltaParams" [need "previousResultId" text]
      [work, gradual]),
   ("textDocument/semanticTokens/range",
    aboutDocument "SemanticTokensRangeParams" [need "range" range] [work, gradual]),
   ("textDocument/colorPresentation",
    aboutDocument "ColorPresentationParams"
      [need "color"
        (record "Color" (["red", "green", "blue", "alpha"].map (need · number))),
       need "range" range]
      [work, gradual]),
   ("textDocument/codeAction",
    aboutDocument "CodeActionParams"
      [need "range" range,
       need "context" <| record "CodeActionContext"
        [need "diagnostics" (list diagnostic), may "only" (list text), may "triggerKind" code]]
      [work, gradual]),
   ("textDocument/formatting",
    aboutDocument "DocumentFormattingParams" [need "options" layout] [work]),
   ("textDocument/rangeFormatting",
    aboutDocument "DocumentRangeFormattingParams" [need "range" range, need "options" layout]
      [work]),
   ("textDocument/selectionRange",
    aboutDocument "SelectionRangeParams" [need "positions" (list position)]
      [work, gradual]),
   ("textDocument/inlineValue",
    aboutDocument "InlineValueParams"
      [need "range" range,
       need "context" <| record "InlineValueContext"
        [need "frameId" code, need "stoppedLocation" range]]
      [work]),
   ("textDocument/inlayHint", aboutDocument "InlayHintParams" [need "range" range] [work]),
   ("textDocument/diagnostic",
    aboutDocument "DocumentDiagnosticParams"
      [may "identifier" text, may "previousResultId" text] [work, gradual]),
   ("textDocument/willSaveWaitUntil",
    record "WillSaveTextDocumentParams" [need "textDocument" document, need "reason" code])]

/-- Requests to fill in what was left out of an item. -/
def itemChecks : List (String × Check) :=
  [("completionItem/resolve", completionItem), ("codeLens/resolve", codeLens),
   ("codeAction/resolve", codeAction), ("documentLink/resolve", documentLink),
   ("inlayHint/resolve", inlayHint), ("workspaceSymbol/resolve", workspaceSymbol),
   ("callHierarchy/incomingCalls", neighbours "CallHierarchyIncomingCallsParams" callItem),
   ("callHierarchy/outgoingCalls", neighbours "CallHierarchyOutgoingCallsParams" callItem),
   ("typeHierarchy/supertypes", neighbours "TypeHierarchySupertypesParams" typeItem),
   ("typeHierarchy/subtypes", neighbours "TypeHierarchySubtypesParams" typeItem)]

/-- Requests about the workspace. -/
def workspaceChecks : List (String × Check) :=
  [("workspace/symbol", parts "WorkspaceSymbolParams" [need "query" text] [work, gradual]),
   ("workspace/diagnostic",
    parts "WorkspaceDiagnosticParams"
      [may "identifier" text,
       need "previousResultIds"
        (list (record "PreviousResultId" [need "uri" uri, need "value" text]))]
      [work, gradual]),
   ("workspace/executeCommand",
    parts "ExecuteCommandParams"
      [need "command" text, ⟨"arguments", .spare, list anything⟩] [work]),
   ("workspace/willCreateFiles", files "CreateFilesParams" "FileCreate" ["uri"]),
   ("workspace/willRenameFiles", files "RenameFilesParams" "FileRename" ["oldUri", "newUri"]),
   ("workspace/willDeleteFiles", files "DeleteFilesParams" "FileDelete" ["uri"])]

/-- The look at the parameters of a request, if it is known and not served. -/
def check? (method : String) : Option Check :=
  (spotChecks ++ documentChecks ++ itemChecks ++ workspaceChecks).lookup method

end Unserved

end DelugeAssist
