import SmaliNavigator.Server.Params.Place

/-!
The forms of what a client says about itself when it opens the server. The server makes no use of
it, but it takes no client whose word it cannot read.
-/

set_option autoImplicit false

namespace SmaliNavigator.Form

open Params Params.Fields

def flagRecord (name : String) (names : List String) : Check := record name (flags names)

def registration : Check :=
  flagRecord "DynamicRegistrationClientCapabilities" ["dynamicRegistration"]

def markupKind : Form String := word ["plaintext", "markdown"]

def properties (name : String) : Check := record name (mustHave "properties" (list text))

def valueSet (name : String) : Check := record name (mayHave "valueSet" (list int32))

def tagSupport : Check where
  read
    | _, .null | _, .bool _ => .ok ()
    | _, j => (record "TagSupport" (mustHave "valueSet" (list int32))).read .own j

def tags : Fields Unit := standard "tagSupport" tagSupport ()

namespace Client

/-! The workspace. -/

def workspaceEdit : Check :=
  record "WorkspaceEditClientCapabilities" <| all [
    flags ["documentChanges"],
    mayHave "resourceOperations" (list (word ["create", "rename", "delete"])),
    mayHave "failureHandling"
      (word ["abort", "transactional", "textOnlyTransactional", "undo"]),
    flags ["normalizesLineEndings"],
    mayHave "changeAnnotationSupport"
      (flagRecord "ChangeAnnotationWorkspaceEditClientCapabilities" ["groupsOnLabel"])]

def workspaceSymbol : Check :=
  record "WorkspaceSymbolClientCapabilities" <| all [
    flags ["dynamicRegistration"],
    mayHave "symbolKind" (valueSet "SymbolKindCapability"),
    tags,
    mayHave "resolveSupport" (properties "WorkspaceSymbolResolveSupportCapability")]

def fileOperations : Check :=
  flagRecord "WorkspaceFileOperationsClientCapabilities"
    ["dynamicRegistration", "didCreate", "willCreate", "didRename", "willRename", "didDelete",
      "willDelete"]

def workspace : Check :=
  record "WorkspaceClientCapabilities" <| all [
    flags ["applyEdit"],
    mayHave "workspaceEdit" workspaceEdit,
    mayHave "didChangeConfiguration" registration,
    mayHave "didChangeWatchedFiles"
      (flagRecord "DidChangeWatchedFilesClientCapabilities"
        ["dynamicRegistration", "relativePatternSupport"]),
    mayHave "symbol" workspaceSymbol,
    mayHave "executeCommand" registration,
    flags ["workspaceFolders", "configuration"],
    mayHave "semanticTokens"
      (flagRecord "SemanticTokensWorkspaceClientCapabilities" ["refreshSupport"]),
    mayHave "codeLens" (flagRecord "CodeLensWorkspaceClientCapabilities" ["refreshSupport"]),
    mayHave "fileOperations" fileOperations,
    mayHave "inlineValue" (flagRecord "InlineValueWorkspaceClientCapabilities" ["refreshSupport"]),
    mayHave "inlayHint" (flagRecord "InlayHintWorkspaceClientCapabilities" ["refreshSupport"]),
    mayHave "diagnostic" (flagRecord "DiagnosticWorkspaceClientCapabilities" ["refreshSupport"])]

/-! Documents. -/

def completionItem : Check :=
  record "CompletionItemCapability" <| all [
    flags ["snippetSupport", "commitCharactersSupport"],
    mayHave "documentationFormat" (list markupKind),
    flags ["deprecatedSupport", "preselectSupport"],
    tags,
    flags ["insertReplaceSupport"],
    mayHave "resolveSupport" (properties "CompletionItemCapabilityResolveSupport"),
    mayHave "insertTextModeSupport"
      (record "InsertTextModeSupport" (mustHave "valueSet" (list int32))),
    flags ["labelDetailsSupport"]]

def completion : Check :=
  record "CompletionClientCapabilities" <| all [
    flags ["dynamicRegistration"],
    mayHave "completionItem" completionItem,
    mayHave "completionItemKind" (valueSet "CompletionItemKindCapability"),
    flags ["contextSupport"],
    mayHave "insertTextMode" int32,
    mayHave "completionList"
      (record "CompletionListCapability" (mayHave "itemDefaults" (list text)))]

def hover : Check :=
  record "HoverClientCapabilities" <| all [
    flags ["dynamicRegistration"], mayHave "contentFormat" (list markupKind)]

def signatureInformation : Check :=
  record "SignatureInformationSettings" <| all [
    mayHave "documentationFormat" (list markupKind),
    mayHave "parameterInformation"
      (flagRecord "ParameterInformationSettings" ["labelOffsetSupport"]),
    flags ["activeParameterSupport"]]

def signatureHelp : Check :=
  record "SignatureHelpClientCapabilities" <| all [
    flags ["dynamicRegistration"],
    mayHave "signatureInformation" signatureInformation,
    flags ["contextSupport"]]

def documentSymbol : Check :=
  record "DocumentSymbolClientCapabilities" <| all [
    flags ["dynamicRegistration"],
    mayHave "symbolKind" (valueSet "SymbolKindCapability"),
    flags ["hierarchicalDocumentSymbolSupport"],
    tags]

def goto : Check := flagRecord "GotoCapability" ["dynamicRegistration", "linkSupport"]

def codeActionLiteral : Check :=
  record "CodeActionLiteralSupport" <| mustHave "codeActionKind" <|
    record "CodeActionKindLiteralSupport" (mustHave "valueSet" (list text))

def codeAction : Check :=
  record "CodeActionClientCapabilities" <| all [
    flags ["dynamicRegistration"],
    mayHave "codeActionLiteralSupport" codeActionLiteral,
    flags ["isPreferredSupport", "disabledSupport", "dataSupport"],
    mayHave "resolveSupport" (properties "CodeActionCapabilityResolveSupport"),
    flags ["honorsChangeAnnotations"]]

def rename : Check :=
  record "RenameClientCapabilities" <| all [
    flags ["dynamicRegistration", "prepareSupport"],
    mayHave "prepareSupportDefaultBehavior" int32,
    flags ["honorsChangeAnnotations"]]

def publishDiagnostics : Check :=
  record "PublishDiagnosticsClientCapabilities" <| all [
    flags ["relatedInformation"],
    tags,
    flags ["versionSupport", "codeDescriptionSupport", "dataSupport"]]

def foldingRange : Check :=
  record "FoldingRangeClientCapabilities" <| all [
    flags ["dynamicRegistration"],
    mayHave "rangeLimit" nat32,
    flags ["lineFoldingOnly"],
    mayHave "foldingRangeKind"
      (record "FoldingRangeKindCapability"
        (mayHave "valueSet" (list (word ["comment", "imports", "region"])))),
    mayHave "foldingRange" (flagRecord "FoldingRangeCapability" ["collapsedText"])]

def wholeTokens : Check :=
  choice "SemanticTokensFullOptions"
    [check flag, check (extended "SemanticTokensDelta" (flags ["delta"]) (pure ()))]

def semanticTokens : Check :=
  record "SemanticTokensClientCapabilities" <| all [
    flags ["dynamicRegistration"],
    mustHave "requests"
      (record "SemanticTokensClientCapabilitiesRequests" <| all [
        flags ["range"], mayHave "full" wholeTokens]),
    mustHave "tokenTypes" (list text),
    mustHave "tokenModifiers" (list text),
    mustHave "formats" (list text),
    flags ["overlappingTokenSupport", "multilineTokenSupport", "serverCancelSupport",
      "augmentsSyntaxTokens"]]

def inlayHint : Check :=
  record "InlayHintClientCapabilities" <| all [
    flags ["dynamicRegistration"],
    mayHave "resolveSupport" (properties "InlayHintResolveClientCapabilities")]

def textDocument : Check :=
  record "TextDocumentClientCapabilities" <| all [
    mayHave "synchronization"
      (flagRecord "TextDocumentSyncClientCapabilities"
        ["dynamicRegistration", "willSave", "willSaveWaitUntil", "didSave"]),
    mayHave "completion" completion,
    mayHave "hover" hover,
    mayHave "signatureHelp" signatureHelp,
    mayHave "references" registration,
    mayHave "documentHighlight" registration,
    mayHave "documentSymbol" documentSymbol,
    mayHave "formatting" registration,
    mayHave "rangeFormatting" registration,
    mayHave "onTypeFormatting" registration,
    mayHave "declaration" goto,
    mayHave "definition" goto,
    mayHave "typeDefinition" goto,
    mayHave "implementation" goto,
    mayHave "codeAction" codeAction,
    mayHave "codeLens" registration,
    mayHave "documentLink"
      (flagRecord "DocumentLinkClientCapabilities" ["dynamicRegistration", "tooltipSupport"]),
    mayHave "colorProvider" registration,
    mayHave "rename" rename,
    mayHave "publishDiagnostics" publishDiagnostics,
    mayHave "foldingRange" foldingRange,
    mayHave "selectionRange"
      (flagRecord "SelectionRangeClientCapabilities" ["dynamicRegistration"]),
    mayHave "linkedEditingRange" registration,
    mayHave "callHierarchy" registration,
    mayHave "semanticTokens" semanticTokens,
    mayHave "moniker" registration,
    mayHave "typeHierarchy" registration,
    mayHave "inlineValue" registration,
    mayHave "inlayHint" inlayHint,
    mayHave "diagnostic"
      (flagRecord "DiagnosticClientCapabilities"
        ["dynamicRegistration", "relatedDocumentSupport"])]

/-! Windows and all else. -/

def window : Check :=
  record "WindowClientCapabilities" <| all [
    flags ["workDoneProgress"],
    mayHave "showMessage"
      (record "ShowMessageRequestClientCapabilities" <| mayHave "messageActionItem" <|
        flagRecord "MessageActionItemCapabilities" ["additionalPropertiesSupport"]),
    mayHave "showDocument"
      (record "ShowDocumentClientCapabilities" (mustHave "support" flag))]

def general : Check :=
  record "GeneralClientCapabilities" <| all [
    mayHave "regularExpressions"
      (record "RegularExpressionsClientCapabilities" <| all [
        mustHave "engine" text, mayHave "version" text]),
    mayHave "markdown"
      (record "MarkdownClientCapabilities" <| all [
        mustHave "parser" text, mayHave "version" text, mayHave "allowedTags" (list text)]),
    mayHave "staleRequestSupport"
      (record "StaleRequestSupportClientCapabilities" <| all [
        mustHave "cancel" flag, mustHave "retryOnContentModified" (list text)]),
    mayHave "positionEncodings" (list text)]

def capabilities : Check :=
  record "ClientCapabilities" <| all [
    mayHave "workspace" workspace,
    mayHave "textDocument" textDocument,
    mayHave "window" window,
    mayHave "general" general,
    mayHave "experimental" any]

def info : Check :=
  record "ClientInfo" <| all [mustHave "name" text, mayHave "version" text]

/-- A folder of the client, which has a name that is not used. -/
def folder : Form Uri :=
  record "WorkspaceFolder" (need "uri" uri <* need "name" text)

end Client

end SmaliNavigator.Form
