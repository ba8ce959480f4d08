import SmaliNavigator.Server.Params.Client

/-!
The forms of what a server and its client send back and forth in requests: edits, commands, the
items of lists and hierarchies.
-/

set_option autoImplicit false

namespace SmaliNavigator.Form

open Params Params.Fields

def markup : Check :=
  record "MarkupContent" <| all [mustHave "kind" markupKind, mustHave "value" text]

def markedText (name : String) : Check := choice name [check text, markup]

def command : Check :=
  record "Command" <| all [
    mustHave "title" text, mustHave "command" text, mayHave "arguments" (list any)]

/-! Edits. -/

def textEditFields : Fields Unit := all [mustHave "range" range, mustHave "newText" text]

def textEdit : Check := record "TextEdit" textEditFields

def notedEdit : Check :=
  choice "OneOf" [
    textEdit,
    check (extended "AnnotatedTextEdit" (mustHave "annotationId" text)
      (Borrowed.ofFields textEditFields))]

def documentEdit : Check :=
  record "TextDocumentEdit" <| all [
    mustHave "textDocument"
      (record "OptionalVersionedTextDocumentIdentifier" <| all [
        mustHave "uri" uri, mayHave "version" int32]),
    mustHave "edits" (list notedEdit)]

def kinded (cases : List (String × Check)) : Check where
  read
    | _, .obj ms =>
      match (Json.obj ms).get? "kind" with
      | some (.str kind) => named kind (.obj (ms.filter fun m => m.1 ≠ "kind"))
      | _ => .error (.missingMember "kind")
    | _, .arr (.str kind :: xs) => named kind (.arr xs)
    | _, j => .error (.wrongKind j "a record behind its kind")
where
  named (kind : String) (j : Json) : Read Unit :=
    match cases.lookup kind with
    | some form => form.read .shared j
    | none => .error (.unknownWord kind (cases.map (·.1)))

def fileChange : Check :=
  kinded [
    ("create",record "CreateFile" <| all [
      mustHave "uri" uri,
      mayHave "options" (flagRecord "CreateFileOptions" ["overwrite", "ignoreIfExists"]),
      mayHave "annotationId" text]),
    ("rename",record "RenameFile" <| all [
      mustHave "oldUri" uri,
      mustHave "newUri" uri,
      mayHave "options" (flagRecord "RenameFileOptions" ["overwrite", "ignoreIfExists"]),
      mayHave "annotationId" text]),
    ("delete",record "DeleteFile" <| all [
      mustHave "uri" uri,
      mayHave "options" (record "DeleteFileOptions" <| all [
        flags ["recursive", "ignoreIfNotExists"], mayHave "annotationId" text])])]

def workspaceEdit : Check :=
  record "WorkspaceEdit" <| all [
    Fields.check (standard "changes" (table uri (list textEdit)).optional none),
    mayHave "documentChanges"
      (choice "DocumentChanges" [
        check (list documentEdit),
        check (list (choice "DocumentChangeOperation" [fileChange, documentEdit]))]),
    mayHave "changeAnnotations"
      (table text <| record "ChangeAnnotation" <| all [
        mustHave "label" text, flags ["needsConfirmation"], mayHave "description" text])]

/-! Diagnostics and actions. -/

def diagnostic : Check :=
  record "Diagnostic" <| all [
    mustHave "range" range,
    mayHave "severity" int32,
    mayHave "code" token,
    mayHave "codeDescription" (record "CodeDescription" (mustHave "href" uri)),
    mayHave "access" text,
    mustHave "message" text,
    mayHave "relatedInformation"
      (list <| record "DiagnosticRelatedInformation" <| all [
        mustHave "location" location, mustHave "message" text]),
    mayHave "tags" (list int32),
    mayHave "data" any]

def codeAction : Check :=
  record "CodeAction" <| all [
    mustHave "title" text,
    mayHave "kind" text,
    mayHave "diagnostics" (list diagnostic),
    mayHave "edit" workspaceEdit,
    mayHave "command" command,
    flags ["isPreferred"],
    mayHave "disabled" (record "CodeActionDisabled" (mustHave "reason" text)),
    mayHave "data" any]

def codeActionContext : Check :=
  record "CodeActionContext" <| all [
    mustHave "diagnostics" (list diagnostic),
    mayHave "only" (list text),
    mayHave "triggerKind" int32]

def codeLens : Check :=
  record "CodeLens" <| all [
    mustHave "range" range, mayHave "command" command, mayHave "data" any]

/-! Completion and help. -/

def completionItem : Check :=
  record "CompletionItem" <| all [
    mustHave "label" text,
    mayHave "labelDetails"
      (record "CompletionItemLabelDetails" <| all [
        mayHave "detail" text, mayHave "description" text]),
    mayHave "kind" int32,
    mayHave "detail" text,
    mayHave "documentation" (markedText "Documentation"),
    flags ["deprecated", "preselect"],
    mayHave "sortText" text,
    mayHave "filterText" text,
    mayHave "insertText" text,
    mayHave "insertTextFormat" int32,
    mayHave "insertTextMode" int32,
    mayHave "textEdit"
      (choice "CompletionTextEdit" [
        textEdit,
        record "InsertReplaceEdit" <| all [
          mustHave "newText" text, mustHave "insert" range, mustHave "replace" range]]),
    mayHave "additionalTextEdits" (list textEdit),
    mayHave "command" command,
    mayHave "commitCharacters" (list text),
    mayHave "data" any,
    mayHave "tags" (list int32)]

def completionContext : Check :=
  record "CompletionContext" <| all [
    mustHave "triggerKind" int32, mayHave "triggerCharacter" text]

def parameterInformation : Check :=
  record "ParameterInformation" <| all [
    mustHave "label" (choice "ParameterLabel" [check text, check (pair nat32)]),
    mayHave "documentation" (markedText "Documentation")]

def signatureInformation : Check :=
  record "SignatureInformation" <| all [
    mustHave "label" text,
    mayHave "documentation" (markedText "Documentation"),
    mayHave "parameters" (list parameterInformation),
    mayHave "activeParameter" nat32]

def signatureHelpContext : Check :=
  record "SignatureHelpContext" <| all [
    mustHave "triggerKind" int32,
    mayHave "triggerCharacter" text,
    mustHave "isRetrigger" flag,
    mayHave "activeSignatureHelp"
      (record "SignatureHelp" <| all [
        mustHave "signatures" (list signatureInformation),
        mayHave "activeSignature" nat32,
        mayHave "activeParameter" nat32])]

/-! Items of lists and hierarchies. -/

def hierarchyItem {α : Type} (name : String) (tagForm : Form α) : Check :=
  record name <| all [
    mustHave "name" text,
    mustHave "kind" int32,
    mayHave "tags" tagForm,
    mayHave "detail" text,
    mustHave "uri" uri,
    mustHave "range" range,
    mustHave "selectionRange" range,
    mayHave "data" any]

def callHierarchyItem : Check := hierarchyItem "CallHierarchyItem" (list int32)

def typeHierarchyItem : Check := hierarchyItem "TypeHierarchyItem" int32

def documentLink : Check :=
  record "DocumentLink" <| all [
    mustHave "range" range, mayHave "target" uri, mayHave "tooltip" text, mayHave "data" any]

def workspaceSymbol : Check :=
  record "WorkspaceSymbol" <| all [
    mustHave "name" text,
    mustHave "kind" int32,
    mayHave "tags" (list int32),
    mayHave "containerName" text,
    mustHave "location"
      (choice "OneOf" [check location, record "WorkspaceLocation" (mustHave "uri" uri)]),
    mayHave "data" any]

def inlayHintPart : Check :=
  record "InlayHintLabelPart" <| all [
    mustHave "value" text,
    mayHave "tooltip" (markedText "InlayHintLabelPartTooltip"),
    mayHave "location" location,
    mayHave "command" command]

def inlayHint : Check :=
  record "InlayHint" <| all [
    mustHave "position" position,
    mustHave "label" (choice "InlayHintLabel" [check text, check (list inlayHintPart)]),
    mayHave "kind" int32,
    mayHave "textEdits" (list textEdit),
    mayHave "tooltip" (markedText "InlayHintTooltip"),
    flags ["paddingLeft", "paddingRight"],
    mayHave "data" any]

def color : Check :=
  record "Color" <| all [
    mustHave "red" real, mustHave "green" real, mustHave "blue" real, mustHave "alpha" real]

def layout : Check :=
  check <| extended "FormattingOptions"
    (all [
      mustHave "tabSize" nat32,
      mustHave "insertSpaces" flag,
      flags ["trimTrailingWhitespace", "insertFinalNewline", "trimFinalNewlines"]])
    (Borrowed.others (choice "FormattingProperty" [check flag, check int32, check text]))

end SmaliNavigator.Form
