import SmaliNavigator.Index.Hierarchy
import SmaliNavigator.Index.Occurrence
import SmaliNavigator.Json
import SmaliNavigator.Table
import SmaliNavigator.Workspace

/-!
What is printed about a project in a directory: how much of it there is and what is wrong with it,
what is above and below a class, and where symbols occur.
-/

set_option autoImplicit false

namespace SmaliNavigator.Report

def ofLines (ls : List String) : String :=
  String.join (ls.map (· ++ "\n"))

/-- A file as the reader of a report knows it: by its path below the directory of the project. -/
def relativeText (root file : Path) : String :=
  ((file.relativeTo? root).getD file).text

def onProject {α : Type} (h : Host) (root : Path) (q : Query α) : Except Failure α := do
  let config ← h.config root
  let workspace ← Workspace.new root config
  let loaded : Query (Except Failure α) := do
    match ← Query.loadProject with
    | .ok () => return .ok (← q)
    | .error e => return .error e
  match (loaded.ask ⟨workspace.source h.disk,.never⟩ (.new config)).1 with
  | some r => r
  | none => .error (.internal "the project was not loaded")

/-! The state of a project. -/

def statsLines (s : IndexStats) : List String :=
  ["Files:       " ++ toString s.files,
    "Parsed:      " ++ toString s.parsed,
    "Failed:      " ++ toString s.failed,
    "Classes:     " ++ toString s.identifiers,
    "Cached:      " ++ toString s.cachedClasses ++ " classes, " ++ toString s.cachedBytes ++
      " bytes"]

def problemRows (root : Path) (ix : Index) : List (List String) :=
  ix.filesWithDiagnostics.flatMap fun (f,ds) => ds.map fun d =>
    [relativeText root f, toString (d.span.start.line + 1), d.kind.label, d.message]

def ofIndex (root : Path) (ix : Index) : String :=
  let problems := match problemRows root ix with
    | [] => "No problems found."
    | rows => (Table.mk ["File", "Line", "Kind", "Message"] rows).render
  ofLines (statsLines ix.stats ++ ["", problems])

def statsJson (s : IndexStats) : Json :=
  .obj [
    ("cached_bytes",.ofNat s.cachedBytes),
    ("cached_classes",.ofNat s.cachedClasses),
    ("failed",.ofNat s.failed),
    ("files",.ofNat s.files),
    ("identifiers",.ofNat s.identifiers),
    ("parsed",.ofNat s.parsed),
    ("unparsed",.ofNat s.unparsed)]

def diagnosticJson (d : Diagnostic) : Json :=
  .obj [
    ("kind",.str d.kind.label),
    ("message",.str d.message),
    ("range",.obj [
      ("end_col",.ofNat d.span.stop.col),
      ("end_line",.ofNat d.span.stop.line),
      ("start_col",.ofNat d.span.start.col),
      ("start_line",.ofNat d.span.start.line)]),
    ("severity",.str d.severity.label)]

def indexJson (ix : Index) : Json :=
  .obj [
    ("diagnostics",.arr (ix.filesWithDiagnostics.map fun (f,ds) =>
      .obj [("diagnostics",.arr (ds.map diagnosticJson)), ("file",.str f.text)])),
    ("stats",statsJson ix.stats)]

/-! A class in its hierarchy. -/

structure Relatives where
  identifier : String
  files : List Path
  ancestors : List String
  subclasses : List String
  deriving DecidableEq, Repr

def relatives (identifier : String) : Query Relatives := do
  let files := (← Query.findClasses identifier).map (·.1)
  let ancestors ← Query.superclasses identifier
  return ⟨identifier,files,ancestors,← Query.subclasses identifier⟩

def ofRelatives (r : Relatives) : String :=
  let declared :=
    if r.files.isEmpty then [r.identifier ++ " is not declared in this project."]
    else r.files.map fun f => "Declared in " ++ f.text
  ofLines (declared ++ ["", "Ancestors:"] ++ r.ancestors.map ("  " ++ ·) ++
    ["", "Subclasses:"] ++ r.subclasses.map ("  " ++ ·))

/-! Symbols in the text of a project. -/

def occurrenceRows (root : Path) (found : Occurrences) : List (List String) :=
  found.flatMap fun (symbol,ls) => ls.map fun l =>
    [symbol, relativeText root l.file, toString (l.span.start.line + 1),
      toString (l.span.start.col + 1)]

def ofOccurrences (root : Path) (found : Occurrences) : String :=
  match occurrenceRows root found with
  | [] => ofLines ["No occurrences found."]
  | rows => ofLines [(Table.mk ["Symbol", "File", "Line", "Column"] rows).render]

end SmaliNavigator.Report
