import SmaliNavigator.Server.Params.Item

/-!
The forms of the parameters of requests that are part of the protocol and that the server does not
answer. It reads them all the same, because a fault in them comes first.
-/

set_option autoImplicit false

namespace SmaliNavigator.Form

open Params Params.Fields

def taking {α : Type} (name : String) (borrowed : Borrowed α) (fields : List (Fields Unit)) :
    Check :=
  check (extended name (all fields) borrowed)

def atPlace {α : Type} (name : String) (borrowed : Borrowed α) : Check :=
  taking name (place *> borrowed) []

def aboutDocument {α : Type} (name : String) (borrowed : Borrowed α) (fields : List (Fields Unit)) :
    Check :=
  taking name borrowed (mustHave "textDocument" document :: fields)

def aboutItem (name : String) (item : Check) : Check :=
  taking name tokens [mustHave "item" item]

def aboutFiles (name file : String) (members : List String) : Check :=
  record name <| mustHave "files" <| list <|
    record file (all (members.map fun member => mustHave member text))

/-- The forms of the parameters of the requests that are not answered, by method. -/
def others : List (String × Check) := [
  ("textDocument/willSaveWaitUntil",
    record "WillSaveTextDocumentParams" <| all [
      mustHave "textDocument" document, mustHave "reason" int32]),
  ("textDocument/declaration",atPlace "GotoDefinitionParams" tokens),
  ("textDocument/typeDefinition",atPlace "GotoDefinitionParams" tokens),
  ("textDocument/implementation",atPlace "GotoDefinitionParams" tokens),
  ("textDocument/prepareCallHierarchy",atPlace "CallHierarchyPrepareParams" progress),
  ("callHierarchy/incomingCalls",
    aboutItem "CallHierarchyIncomingCallsParams" callHierarchyItem),
  ("callHierarchy/outgoingCalls",
    aboutItem "CallHierarchyOutgoingCallsParams" callHierarchyItem),
  ("textDocument/prepareTypeHierarchy",atPlace "TypeHierarchyPrepareParams" progress),
  ("typeHierarchy/supertypes",aboutItem "TypeHierarchySupertypesParams" typeHierarchyItem),
  ("typeHierarchy/subtypes",aboutItem "TypeHierarchySubtypesParams" typeHierarchyItem),
  ("textDocument/documentHighlight",atPlace "DocumentHighlightParams" tokens),
  ("textDocument/documentLink",aboutDocument "DocumentLinkParams" tokens []),
  ("documentLink/resolve",documentLink),
  ("textDocument/codeLens",aboutDocument "CodeLensParams" tokens []),
  ("codeLens/resolve",codeLens),
  ("textDocument/foldingRange",aboutDocument "FoldingRangeParams" tokens []),
  ("textDocument/selectionRange",
    aboutDocument "SelectionRangeParams" tokens [mustHave "positions" (list position)]),
  ("textDocument/semanticTokens/full",aboutDocument "SemanticTokensParams" tokens []),
  ("textDocument/semanticTokens/full/delta",
    aboutDocument "SemanticTokensDeltaParams" tokens [mustHave "previousResultId" text]),
  ("textDocument/semanticTokens/range",
    aboutDocument "SemanticTokensRangeParams" tokens [mustHave "range" range]),
  ("textDocument/inlineValue",
    aboutDocument "InlineValueParams" progress [
      mustHave "range" range,
      mustHave "context" <| record "InlineValueContext" <| all [
        mustHave "frameId" int32, mustHave "stoppedLocation" range]]),
  ("textDocument/inlayHint",
    aboutDocument "InlayHintParams" progress [mustHave "range" range]),
  ("inlayHint/resolve",inlayHint),
  ("textDocument/moniker",atPlace "MonikerParams" tokens),
  ("textDocument/completion",
    taking "CompletionParams" (place *> tokens) [mayHave "context" completionContext]),
  ("completionItem/resolve",completionItem),
  ("textDocument/diagnostic",
    aboutDocument "DocumentDiagnosticParams" tokens [
      mayHave "identifier" text, mayHave "previousResultId" text]),
  ("workspace/diagnostic",
    taking "WorkspaceDiagnosticParams" tokens [
      mayHave "identifier" text,
      mustHave "previousResultIds" <| list <| record "PreviousResultId" <| all [
        mustHave "uri" uri, mustHave "value" text]]),
  ("textDocument/signatureHelp",
    taking "SignatureHelpParams" (place *> progress) [
      mayHave "context" signatureHelpContext]),
  ("textDocument/codeAction",
    aboutDocument "CodeActionParams" tokens [
      mustHave "range" range, mustHave "context" codeActionContext]),
  ("codeAction/resolve",codeAction),
  ("textDocument/documentColor",aboutDocument "DocumentColorParams" tokens []),
  ("textDocument/colorPresentation",
    aboutDocument "ColorPresentationParams" tokens [
      mustHave "color" color, mustHave "range" range]),
  ("textDocument/formatting",
    aboutDocument "DocumentFormattingParams" progress [mustHave "options" layout]),
  ("textDocument/rangeFormatting",
    aboutDocument "DocumentRangeFormattingParams" progress [
      mustHave "range" range, mustHave "options" layout]),
  ("textDocument/onTypeFormatting",
    taking "DocumentOnTypeFormattingParams" place [
      mustHave "ch" text, mustHave "options" layout]),
  ("textDocument/prepareRename",check (record "TextDocumentPositionParams" placeFields)),
  ("textDocument/linkedEditingRange",atPlace "LinkedEditingRangeParams" progress),
  ("workspaceSymbol/resolve",workspaceSymbol),
  ("workspace/willCreateFiles",aboutFiles "CreateFilesParams" "FileCreate" ["uri"]),
  ("workspace/willRenameFiles",
    aboutFiles "RenameFilesParams" "FileRename" ["oldUri", "newUri"]),
  ("workspace/willDeleteFiles",aboutFiles "DeleteFilesParams" "FileDelete" ["uri"]),
  ("workspace/executeCommand",
    taking "ExecuteCommandParams" progress [
      mustHave "command" text, Fields.check (standard "arguments" (list any) [])])]

end SmaliNavigator.Form
