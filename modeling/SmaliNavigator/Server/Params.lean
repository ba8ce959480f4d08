import SmaliNavigator.Server.Message
import SmaliNavigator.Server.Params.Other

/-!
The parameters of the messages that the server answers.
-/

set_option autoImplicit false

namespace SmaliNavigator

namespace Params

structure Edition where
  uri : Uri
  text : String
  version : Int
  deriving DecidableEq, Repr

inductive DiskChange where
  | created | deleted | changed
  deriving DecidableEq, Repr

def DiskChange.ofCode (code : Int) : DiskChange :=
  if code = 1 then .created else if code = 3 then .deleted else .changed

/-- Reads the parameters of a message, of which there have to be some. Of members with one name the
last counts. -/
def ofMessage {α : Type} (form : Form α) (m : Message) : Read α :=
  match m.params? with
  | none => .error .missing
  | some j => form.read .own j.sorted

end Params

namespace Form

open Params Params.Fields

/-! Requests. -/

def placed {α : Type} (name : String) (borrowed : Borrowed α) : Form (Uri × Position) :=
  Prod.snd <$> extended name (pure ()) (place <* borrowed)

def withDeclarations : Form Bool :=
  record "ReferenceContext" (need "includeDeclaration" flag)

def references : Form (Bool × Uri × Position) :=
  extended "ReferenceParams" (need "context" withDeclarations) (place <* tokens)

def renamed : Form (String × Uri × Position) :=
  extended "RenameParams" (need "newName" text) (place <* progress)

def outlined : Form Uri :=
  Prod.fst <$> extended "DocumentSymbolParams" (need "textDocument" document) tokens

def sought : Form String :=
  Prod.fst <$> extended "WorkspaceSymbolParams" (need "query" text) (partly *> progress)

/-! Notifications. -/

def started : Check := record "InitializedParams" (pure ())

def opened : Form Edition :=
  record "DidOpenTextDocumentParams" <| need "textDocument" <| record "TextDocumentItem" <|
    (fun uri version text => ⟨uri,text,version⟩) <$>
      (need "uri" uri <* need "languageId" text) <*> need "version" int32 <*> need "text" text

def versioned : Form (Uri × Int) :=
  record "VersionedTextDocumentIdentifier"
    (Prod.mk <$> need "uri" uri <*> need "version" int32)

def newText : Form String :=
  record "TextDocumentContentChangeEvent"
    (may "range" range *> may "rangeLength" nat32 *> need "text" text)

/-- A document that the client changes. Each change is a whole text, so that the last one counts;
without a change there is nothing new. -/
def changed : Form (Option Edition) :=
  record "DidChangeTextDocumentParams" <|
    (fun (uri,version) texts => texts.getLast?.map fun text => ⟨uri,text,version⟩) <$>
      need "textDocument" versioned <*> need "contentChanges" (list newText)

def saved : Form Uri :=
  record "DidSaveTextDocumentParams" (need "textDocument" document <* may "text" text)

def closed : Form Uri := record "DidCloseTextDocumentParams" (need "textDocument" document)

def diskChanged : Form (List (Uri × DiskChange)) :=
  record "DidChangeWatchedFilesParams" <| need "changes" <| list <| record "FileEvent" <|
    (fun uri code => (uri,.ofCode code)) <$> need "uri" uri <*> need "type" int32

/-! The opening of the server. -/

def trace : Form String := word ["off", "messages", "verbose"]

/-- The directory of the project: the first folder of the client, if it is one on this computer,
else the root that it names. -/
def root : Form (Option Path) :=
  record "InitializeParams" <|
    (fun rootUri? folders? =>
        ((folders?.getD []).head?.bind Uri.path?).or (rootUri?.bind Uri.path?)) <$>
      (may "processId" nat32 *> may "rootPath" text *>
        standard "rootUri" (optional uri) none <*
        may "initializationOptions" any <* need "capabilities" Client.capabilities <*
        standard "trace" (optional trace) none) <*>
      (may "workspaceFolders" (list Client.folder) <*
        may "clientInfo" Client.info <* may "locale" text)

end Form

end SmaliNavigator
