import SmaliNavigator.Cache
import SmaliNavigator.Class.Reader
import SmaliNavigator.Config
import SmaliNavigator.Location
import SmaliNavigator.Source

/-!
What is known about the files of a project: which class each file declares, what is wrong with it,
and the classes themselves as far as the cache keeps them. What the cache has dropped is read again
from the last text that could be read.
-/

set_option autoImplicit false

namespace SmaliNavigator

structure Stamp where
  version? : Option Int
  text : String
  deriving DecidableEq, Repr

def Stamp.isOlderThan (new old : Stamp) : Bool :=
  match new.version?, old.version? with
  | some n, some o => n < o
  | _, _ => false

/-- The order in which a table comes upon its files. It is not that of their paths, and two tables need
not have the same one. -/
class FileOrder where
  arrange : List Path → List Path
  arrange_perm : ∀ files, (arrange files).Perm files

namespace FileOrder

instance byPath : FileOrder := ⟨id,fun _ => .refl _⟩

@[simp] theorem mem_arrange {o : FileOrder} {files : List Path} {file : Path} :
    file ∈ o.arrange files ↔ file ∈ files :=
  (o.arrange_perm files).mem_iff

end FileOrder

inductive FileState where
  | unparsed
  | parsed (identifier text : String)
  /-- The last text could not be read; what is kept is of the last one that could. -/
  | failed (identifier? lastGood? : Option String)
  deriving DecidableEq, Repr

namespace FileState

/-- The class that the file declares, by its last text that could be read. -/
def identifier? : FileState → Option String
  | unparsed => none
  | parsed i _ => some i
  | failed i _ => i

def goodText? : FileState → Option String
  | unparsed => none
  | parsed _ t => some t
  | failed _ t => t

end FileState

structure FileEntry where
  state : FileState
  /-- The last text that the file was given and that counted. -/
  stamp? : Option Stamp
  deriving DecidableEq, Repr

structure Index where
  config : Config
  files : PathMap FileEntry
  declaring : OrdMap String PathSet
  diagnostics : PathMap (List Diagnostic)
  /-- Files whose diagnostics changed because of another file. -/
  touched : PathSet
  cache : Cache
  ready : Bool
  deriving DecidableEq, Repr

structure IndexStats where
  files : Nat
  parsed : Nat
  failed : Nat
  unparsed : Nat
  identifiers : Nat
  cachedClasses : Nat
  cachedBytes : Nat
  deriving DecidableEq, Repr

namespace Index

def new (config : Config) : Index where
  config
  files := ∅
  declaring := ∅
  diagnostics := ∅
  touched := ∅
  cache := .new config.cacheBudget
  ready := false

def stats (ix : Index) : IndexStats :=
  let states := ix.files.toList.map (·.2.state)
  { files := ix.files.size
    parsed := states.countP fun s => match s with
      | .parsed _ _ => true
      | _ => false
    failed := states.countP fun s => match s with
      | .failed _ _ => true
      | _ => false
    unparsed := states.countP fun s => match s with
      | .unparsed => true
      | _ => false
    identifiers := ix.declaring.size
    cachedClasses := ix.cache.size
    cachedBytes := ix.cache.bytes }

def markReady (ix : Index) : Index := { ix with ready := true }

def register (ix : Index) (file : Path) : Index :=
  if ix.files.contains file then ix
  else { ix with files := ix.files.insert file ⟨.unparsed,none⟩ }

def knownFiles (ix : Index) : List Path := ix.files.files

def identifiers (ix : Index) : List String := ix.declaring.keys

def identifierOf? (ix : Index) (file : Path) : Option String :=
  (ix.files.get? file).bind (·.state.identifier?)

def declarers (ix : Index) (identifier : String) : List Path :=
  ((ix.declaring.get? identifier).getD ∅).files

def diagnosticsOf (ix : Index) (file : Path) : List Diagnostic :=
  (ix.diagnostics.get? file).getD []

def filesWithDiagnostics (ix : Index) : List (Path × List Diagnostic) :=
  ix.diagnostics.toList

def firstFatal? (ix : Index) (file : Path) : Option Diagnostic :=
  (ix.diagnosticsOf file).find? (·.isFatal)

def takeTouched [FileOrder] (ix : Index) : List Path × Index :=
  (FileOrder.arrange ix.touched.files,{ ix with touched := ∅ })

/-- The cached class of a file, or the one that its last good text makes. -/
def materialize (ix : Index) (file : Path) (state : FileState) : Option Class × Index :=
  match ix.cache.get file with
  | (some c,cache) => (some c,{ ix with cache })
  | (none,_) =>
    match state.goodText?.map Class.ofString with
    | some (.ok c) => (some c,{ ix with cache := (ix.cache.insert file c).2 })
    | _ => (none,ix)

def readableIdentifier (identifier : String) : String :=
  match Descriptor.ofString? identifier with
  | some t => t.readable
  | none => identifier

def otherTexts (files : List Path) (file : Path) : List String :=
  (files.filter (!·.same file)).map (·.text)

def conflicts (ix : Index) (c : Class) (file : Path) : List Diagnostic :=
  match otherTexts (ix.declarers c.identifier) file with
  | [] => []
  | others => [⟨c.name.span,.declaredTwice (readableIdentifier c.identifier) others⟩]

def withOthers (identifier : String) (others : List String) (ds : List Diagnostic) :
    List Diagnostic :=
  if others.isEmpty then ds.filter (!·.isConflict)
  else ds.map fun d =>
    if d.isConflict then { d with fault := .declaredTwice (readableIdentifier identifier) others }
    else d

def setDiagnostics (ix : Index) (file : Path) (ds : List Diagnostic) : Index :=
  { ix with diagnostics :=
      if ds.isEmpty then ix.diagnostics.erase file else ix.diagnostics.insert file ds }

def refreshConflict (identifier : String) (files : List Path) (ix : Index) (file : Path) : Index :=
  let ds := ix.diagnosticsOf file
  if ds.any (·.isConflict) then
    let ix := ix.setDiagnostics file (withOthers identifier (otherTexts files file) ds)
    { ix with touched := ix.touched.add file }
  else ix

def refreshConflicts (ix : Index) (identifier : String) : Index :=
  let files := ix.declarers identifier
  files.foldl (refreshConflict identifier files) ix

def unmap (ix : Index) (identifier : String) (file : Path) : Index :=
  match ix.declaring.get? identifier with
  | none => ix
  | some files =>
    let left := files.erase file
    if left.isEmpty then { ix with declaring := ix.declaring.erase identifier }
    else ({ ix with declaring := ix.declaring.insert identifier left }).refreshConflicts identifier

def map (ix : Index) (identifier : String) (file : Path) : Index :=
  let files := (ix.declaring.get? identifier).getD ∅
  { ix with declaring := ix.declaring.insert identifier (files.add file) }

def accept (ix : Index) (file : Path) (stamp : Stamp) (c : Class) : Index :=
  let ix := match ix.identifierOf? file with
    | some old => if old = c.identifier then ix else ix.unmap old file
    | none => ix
  let ix := ix.map c.identifier file
  let ix := { ix with
    files := ix.files.insert file ⟨.parsed c.identifier stamp.text,some stamp⟩
    cache := (ix.cache.insert file c).2 }
  ix.setDiagnostics file (ix.conflicts c file)

/-- A text of a file could not be read. What the file declared before stays. -/
def reject (ix : Index) (file : Path) (stamp : Stamp) (d : Diagnostic) : Index :=
  let state := ((ix.files.get? file).map (·.state)).getD .unparsed
  { ix with
    files := ix.files.insert file ⟨.failed state.identifier? state.goodText?,some stamp⟩
    diagnostics := ix.diagnostics.insert file [d] }

def parse (ix : Index) (file : Path) (stamp : Stamp) : Except Diagnostic Class × Index :=
  match Class.ofString stamp.text with
  | .ok c => (.ok c,ix.accept file stamp c)
  | .error d => (.error d,ix.reject file stamp d)

def answerStale (ix : Index) (file : Path) (version? : Option Int) (state : FileState) :
    Except Diagnostic Class × Index :=
  match ix.materialize file state with
  | (some c,ix) => (.ok c,ix)
  | (none,ix) =>
    (.error ((ix.firstFatal? file).getD ⟨.origin,.nothingToFallBackOn version? file.text⟩),ix)

def answerRepeated? (ix : Index) (file : Path) (state : FileState) :
    Option (Except Diagnostic Class × Index) :=
  match state with
  | .unparsed => none
  | .failed _ _ => (ix.firstFatal? file).map fun d => (.error d,ix)
  | .parsed _ _ =>
    match ix.materialize file state with
    | (some c,ix) => some (.ok c,ix)
    | (none,_) => none

/-- Takes a text as the new content of a file. An older version than the last one changes nothing,
and the same text is not read again. -/
def refresh (ix : Index) (file : Path) (text : String) (version? : Option Int) :
    Except Diagnostic Class × Index :=
  let stamp : Stamp := ⟨version?,text⟩
  match ix.files.get? file with
  | some ⟨state,some current⟩ =>
    if stamp.isOlderThan current then ix.answerStale file version? state
    else if current.text = text then
      (ix.answerRepeated? file state).getD (ix.parse file stamp)
    else ix.parse file stamp
  | _ => ix.parse file stamp

def remove (ix : Index) (file : Path) : Index :=
  let ix := match ix.files.get? file with
    | none => ix
    | some e =>
      let ix := { ix with files := ix.files.erase file }
      match e.state.identifier? with
      | some i => ix.unmap i file
      | none => ix
  { ix with
    cache := (ix.cache.remove file).2
    diagnostics := ix.diagnostics.erase file }

def clear (ix : Index) : Index := new ix.config

end Index

end SmaliNavigator
