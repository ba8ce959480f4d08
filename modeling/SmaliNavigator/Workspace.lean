import SmaliNavigator.Config.Reader
import SmaliNavigator.Disk
import SmaliNavigator.Source

/-!
A project in a directory of a disk, with the texts of the files that an editor has open.
-/

set_option autoImplicit false

namespace SmaliNavigator

structure Host where
  disk : Disk
  budget? : Option String
  deriving DecidableEq, Repr

def Host.config (h : Host) (root : Path) : Except Failure Config := do
  let config ← match h.disk.text? (root.join (.ofString Config.fileName)) with
    | some text => Config.ofString text
    | none => pure Config.default
  return config.withBudget h.budget?

structure Workspace where
  root : Path
  filter : PathFilter
  opened : PathMap LiveText
  deriving Repr

namespace Workspace

def new (root : Path) (config : Config) : Except Failure Workspace := do
  return ⟨root,← PathFilter.ofConfig config,∅⟩

/-- An editor has a file open, with a text that counts in place of the saved one. -/
def openText (w : Workspace) (file : Path) (text : LiveText) : Workspace :=
  { w with opened := w.opened.insert file text }

def close (w : Workspace) (file : Path) : Workspace :=
  { w with opened := w.opened.erase file }

def isOpen (w : Workspace) (file : Path) : Bool := w.opened.contains file

def isRelevant (w : Workspace) (file : Path) : Bool :=
  w.filter.isMatch ((file.relativeTo? w.root).getD file)

def files (w : Workspace) (d : Disk) : List Path :=
  let selected := (d.filesBelow w.root).filter fun (_,below) => w.filter.isMatch below
  (selected.map (·.1)).mergeSort Path.le

def read (w : Workspace) (d : Disk) (file : Path) : Except Failure LiveText :=
  match w.opened.get? file with
  | some live => .ok live
  | none => (d.read file).map fun text => ⟨text,none⟩

def source (w : Workspace) (d : Disk) : Source where
  list := .ok (w.files d)
  open? := w.read d

end Workspace

end SmaliNavigator
