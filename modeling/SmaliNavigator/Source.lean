import SmaliNavigator.Failure
import SmaliNavigator.Path

/-!
Where the texts of a project come from.
-/

set_option autoImplicit false

namespace SmaliNavigator

/-- A text as an editor shows it. A saved text has no version. -/
structure LiveText where
  text : String
  version? : Option Int
  deriving DecidableEq, Repr

structure Source where
  list : Except Failure (List Path)
  /-- The text of a file: that of an open editor, else the saved one. -/
  open? : Path → Except Failure LiveText

structure MemoryProject where
  files : PathMap LiveText
  unreadable : PathSet
  unlisted : Bool
  deriving DecidableEq, Repr

namespace MemoryProject

def empty : MemoryProject := ⟨∅,∅,false⟩

def put (m : MemoryProject) (file : Path) (text : LiveText) : MemoryProject :=
  { m with files := m.files.insert file text }

def delete (m : MemoryProject) (file : Path) : Bool × MemoryProject :=
  (m.files.contains file,{ m with files := m.files.erase file })

def read (m : MemoryProject) (file : Path) : Except Failure LiveText :=
  if m.unreadable.contains file then .error (.io (file.text ++ " is unreadable"))
  else match m.files.get? file with
    | some text => .ok text
    | none => .error (.io (file.text ++ " is not part of the project"))

def source (m : MemoryProject) : Source where
  list := if m.unlisted then .error (.internal "enumerate failed") else .ok m.files.files
  open? := m.read

end MemoryProject

end SmaliNavigator
