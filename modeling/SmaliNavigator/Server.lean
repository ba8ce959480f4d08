import SmaliNavigator.Server.Params
import SmaliNavigator.Server.Session

/-!
A language server as a machine that takes one message after the other. It answers requests about the
project of its session, takes in what an editor and the disk do to files, and tells the client of
the diagnostics that this changes.

A server first waits for the client to open it, then serves, then is shut down, and ends. What it
does not do in its present state it refuses; notifications it then passes over in silence.
-/

set_option autoImplicit false

namespace SmaliNavigator

inductive Phase where
  | waiting | serving | shutDown | ended
  deriving DecidableEq, Repr

structure Server where
  phase : Phase
  session? : Option Session
  deriving Repr

structure Turn where
  server : Server
  reply : Reply
  published : List Json
  sent : List (String × Json)

namespace Server

def new : Server := ⟨.waiting,none⟩

def answer (s : Server) (r : Reply) : Turn := ⟨s,r,[],[]⟩

def capabilities : Json :=
  .obj [
    ("textDocumentSync",
      .obj [("openClose",.bool true), ("change",.int 1), ("save",.bool true)]),
    ("hoverProvider",.bool true),
    ("definitionProvider",.bool true),
    ("referencesProvider",.bool true),
    ("documentSymbolProvider",.bool true),
    ("workspaceSymbolProvider",.bool true),
    ("renameProvider",.obj [("prepareProvider",.bool false)])]

def greeting : Json :=
  .obj [
    ("serverInfo",.obj [("name",.str "Smaliscope"), ("version",.str "0.3.0")]),
    ("capabilities",capabilities)]

def watchRequest : String × Json :=
  ("client/registerCapability",
    .obj [("registrations",.arr [.obj [
      ("id",.str "smaliscope-watched-files"),
      ("method",.str "workspace/didChangeWatchedFiles"),
      ("registerOptions",
        .obj [("watchers",.arr [.obj [("globPattern",.str "**/*.smali")]])])]])])

def symbolLimit : Nat := 256

/-- The file of a URI and the position in it, as far as there is such a file. -/
def locate? (uri : Uri) (p : Position) : Query (Option (Path × Position)) := do
  match uri.path? with
  | none => return none
  | some file => return (← Query.document? file).map fun d => (file,d.bytePosition p)

def answerAt (uri : Uri) (p : Position) (f : Path → Position → Query (Except Refusal Json)) :
    Query (Except Refusal Json) := do
  match ← locate? uri p with
  | none => return .ok .null
  | some (file,p) => f file p

inductive Question where
  | hover (uri : Uri) (position : Position)
  | definition (uri : Uri) (position : Position)
  | references (uri : Uri) (position : Position) (withDeclarations : Bool)
  | rename (uri : Uri) (position : Position) (name : String)
  | outline (uri : Uri)
  | symbols (text : String)
  deriving DecidableEq, Repr

namespace Question

def form? (method : String) : Option (Form Question) :=
  match method with
  | "textDocument/hover" =>
    some ((fun (uri,p) => hover uri p) <$> Form.placed "HoverParams" Form.progress)
  | "textDocument/definition" =>
    some ((fun (uri,p) => definition uri p) <$> Form.placed "GotoDefinitionParams" Form.tokens)
  | "textDocument/references" =>
    some ((fun (withDeclarations,uri,p) => references uri p withDeclarations) <$>
      Form.references)
  | "textDocument/rename" =>
    some ((fun (name,uri,p) => rename uri p name) <$> Form.renamed)
  | "textDocument/documentSymbol" => some (outline <$> Form.outlined)
  | "workspace/symbol" => some (symbols <$> Form.sought)
  | _ => none

def answer : Question → Query (Except Refusal Json)
  | hover uri p => answerAt uri p fun file p => do
    match ← Query.hover file p with
    | some h => return .ok (← Answer.hover file h)
    | none => return .ok .null
  | definition uri p => answerAt uri p fun file p =>
    return .ok (← Answer.definitions (← Query.definition file p))
  | references uri p withDeclarations => answerAt uri p fun file p =>
    return .ok (← Answer.references (← Query.references file p withDeclarations))
  | rename uri p name => answerAt uri p fun file p => do
    match ← Query.rename file p name with
    | .ok edits => return .ok (← Answer.edits edits)
    | .error refusal => return .error refusal
  | outline uri => do
    match uri.path? with
    | none => return .ok .null
    | some file =>
      match ← Query.classOf? file with
      | some c => return .ok (Answer.outline c)
      | none => return .ok .null
  | symbols text => return .ok (← Answer.symbolHits (← Query.workspaceSymbols text symbolLimit))

end Question

inductive Notice where
  | started
  | opened (edition : Params.Edition)
  | changed (edition? : Option Params.Edition)
  | saved (uri : Uri)
  | closed (uri : Uri)
  | diskChanged (changes : List (Uri × Params.DiskChange))
  deriving DecidableEq, Repr

namespace Notice

def form? (method : String) : Option (Form Notice) :=
  match method with
  | "initialized" => some ((fun _ => started) <$> Form.started)
  | "textDocument/didOpen" => some (opened <$> Form.opened)
  | "textDocument/didChange" => some (changed <$> Form.changed)
  | "textDocument/didSave" => some (saved <$> Form.saved)
  | "textDocument/didClose" => some (closed <$> Form.closed)
  | "workspace/didChangeWatchedFiles" => some (diskChanged <$> Form.diskChanged)
  | _ => none

def withFile (s : Session) (uri : Uri) (f : Path → Session) : Session :=
  match uri.path? with
  | some file => f file
  | none => s

def updated (d : Disk) (s : Session) (e : Params.Edition) : Session :=
  withFile s e.uri fun file => s.update d file ⟨e.text,some e.version⟩

def apply (d : Disk) (s : Session) : Notice → Session
  | started => s
  | opened e => updated d s e
  | changed e? => (e?.map (updated d s)).getD s
  | saved uri => withFile s uri (s.saved d)
  | closed uri => withFile s uri (s.closed d)
  | diskChanged changes =>
    changes.foldl (fun s (uri,change) => withFile s uri fun file =>
      match change with
      | .created => s.created d file
      | .deleted => s.deleted d file
      | .changed => s.written d file) s

end Notice

def publish (h : Host) (s : Server) (reply : Reply) : Turn :=
  match s.session? with
  | none => s.answer reply
  | some session =>
    let (reports,session) := session.takeReports h.disk
    ⟨{ s with session? := some session },reply,reports,[]⟩

/-- Refuses a message; a notification is passed over. -/
def refuse (s : Server) (m : Message) (f : RequestFault) : Turn :=
  s.answer (if m.isRequest then .refusal f else .silence)

def closedFault (s : Server) : RequestFault :=
  match s.phase with
  | .waiting => .notReady
  | _ => .invalid

def readParams {α : Type} (form : Form α) (m : Message) : Except RequestFault α :=
  (Params.ofMessage form m).mapError fun e => .badParams e.message

def greet (h : Host) (s : Server) (m : Message) : Turn :=
  if s.phase ≠ .waiting then s.refuse m .invalid
  else if !m.isRequest then s.answer .silence
  else
    match readParams Form.root m with
    | .error f => s.refuse m f
    | .ok root? =>
      let session? := root?.bind fun root => (Session.start h root).toOption
      publish h ⟨.serving,session?⟩ (.result greeting)

def dismiss (s : Server) (m : Message) : Turn :=
  if s.phase ≠ .serving then s.refuse m s.closedFault
  else
    let s := { s with phase := Phase.shutDown }
    if !m.isRequest then s.answer .silence
    else
      match m.params? with
      | some j => s.refuse m (.badParams (ParamsFault.unexpected j.sorted).message)
      | none => { s with session? := none }.answer (.result .null)

def consult (h : Host) (s : Server) (q : Question) : Turn :=
  match s.session? with
  | none => s.answer (.result .null)
  | some session =>
    let (answer?,session) := session.ask h.disk q.answer
    let reply := match answer? with
      | some (.ok j) => Reply.result j
      | some (.error refusal) => .refusal (.badParams (Failure.rename refusal).message)
      | none => .result .null
    publish h { s with session? := some session } reply

def heed (h : Host) (s : Server) (n : Notice) : Turn :=
  let turn := publish h { s with session? := s.session?.map (n.apply h.disk · ) } .silence
  if n = .started then { turn with sent := [watchRequest] } else turn

/-- Notifications that are part of the protocol and that this server does not look at. -/
def otherNotices : List String :=
  ["textDocument/willSave", "workspace/didChangeConfiguration",
    "workspace/didChangeWorkspaceFolders", "workspace/didCreateFiles", "workspace/didRenameFiles",
    "workspace/didDeleteFiles"]

def serve (h : Host) (s : Server) (m : Message) : Turn :=
  if s.phase ≠ .serving then s.refuse m s.closedFault
  else
    match Question.form? m.method, Notice.form? m.method, Form.others.lookup m.method with
    | some form, _, _ =>
      if !m.isRequest then s.answer .silence
      else match readParams form m with
        | .ok q => s.consult h q
        | .error f => s.refuse m f
    | none, some form, _ =>
      if m.isRequest then s.refuse m .invalid
      else match readParams form m with
        | .ok n => s.heed h n
        | .error _ => s.answer .silence
    | none, none, some form =>
      match readParams form m with
      | .ok _ => s.refuse m .unknownMethod
      | .error f => s.refuse m f
    | none, none, none => s.refuse m .invalid

def isServed (method : String) : Bool :=
  (Question.form? method).isSome || (Notice.form? method).isSome ||
    (Form.others.lookup method).isSome || otherNotices.contains method

/-- Takes a message. Of methods that nobody knows, those that start with `$/` may be passed over. -/
def handle (h : Host) (s : Server) (m : Message) : Turn :=
  if s.phase = .ended then s.answer .gone
  else if m.method = "initialize" then s.greet h m
  else if m.method = "shutdown" then s.dismiss m
  else if m.method = "exit" then { s with phase := Phase.ended }.answer .silence
  else if m.method = "$/cancelRequest" then s.refuse m .invalid
  else if isServed m.method then s.serve h m
  else if m.method.startsWith "$/" then s.answer .silence
  else s.refuse m .unknownMethod

end Server

end SmaliNavigator
