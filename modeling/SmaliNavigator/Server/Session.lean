import SmaliNavigator.Engine
import SmaliNavigator.Server.Answer
import SmaliNavigator.Workspace

/-!
A project that a client has open: its directory, the texts in the editor, and the index that is kept
up to date with both.
-/

set_option autoImplicit false

namespace SmaliNavigator

structure Session where
  workspace : Workspace
  engine : Engine
  deriving Repr

namespace Session

def start (h : Host) (root : Path) : Except Failure Session := do
  let config ← h.config root
  let workspace ← Workspace.new root config
  return ⟨workspace,(Engine.new (.new config)).start (workspace.source h.disk)⟩

def ask {α : Type} (s : Session) (d : Disk) (q : Query α) : Option α × Session :=
  let (answer?,index) := q.ask ⟨s.workspace.source d,.never⟩ s.engine.index
  (answer?,{ s with engine := { s.engine with index } })

def apply (s : Session) (d : Disk) (event : FileEvent) : Session :=
  { s with engine := s.engine.apply (s.workspace.source d) event }

def update (s : Session) (d : Disk) (file : Path) (text : LiveText) : Session :=
  if s.workspace.isRelevant file then
    let s := { s with workspace := s.workspace.openText file text }
    s.apply d (.changed file (some text))
  else s

/-- A file was saved. What the editor shows of it counts all the same. -/
def saved (s : Session) (d : Disk) (file : Path) : Session :=
  if s.workspace.isOpen file then s else s.apply d (.changed file none)

/-- The editor shows a file no more, and the saved text counts again. -/
def closed (s : Session) (d : Disk) (file : Path) : Session :=
  if s.workspace.isOpen file then
    let s := { s with workspace := s.workspace.close file }
    s.apply d (.changed file none)
  else s

/-- A file was written to the disk, which does not count while an editor has it open. -/
def written (s : Session) (d : Disk) (file : Path) : Session :=
  if s.workspace.isRelevant file && !s.workspace.isOpen file then s.apply d (.changed file none)
  else s

def created (s : Session) (d : Disk) (file : Path) : Session :=
  if s.workspace.isRelevant file then s.apply d (.created file) else s

def deleted (s : Session) (d : Disk) (file : Path) : Session :=
  if s.workspace.isRelevant file then s.apply d (.deleted file) else s

def reportOf? (u : Update) : Query (Option Json) := do
  match Uri.ofPath? u.file with
  | none => return none
  | some uri =>
    let text? ← Query.document? u.file
    return some (.obj [("uri",.str uri),
      ("diagnostics",.arr (u.diagnostics.map (Answer.diagnostic text?)))])

def reportsOf : List Update → Query (List Json)
  | [] => return []
  | u :: us => do
    let report? ← reportOf? u
    return report?.toList ++ (← reportsOf us)

def takeReports (s : Session) (d : Disk) : List Json × Session :=
  let (updates,engine) := s.engine.takeUpdates
  let (reports?,s) := { s with engine }.ask d (reportsOf updates)
  (reports?.getD [],s)

end Session

end SmaliNavigator
