import SmaliNavigator.Ignore

/-!
The directories and the text files of a disk as they are at some time.

A path leads from one directory to the next: every piece of it between slashes, an empty one and one
of dots too, asks for a directory that it starts from.

A directory is searched for its files without those that are hidden and without those that an ignore
file leaves out. An ignore file speaks of everything below its directory, and the nearest one that
speaks of an entry counts; it can take a hidden entry in. What is below a directory that is left out
is not looked at.
-/

set_option autoImplicit false

namespace SmaliNavigator

/-- The names on the way from the root of a disk to an entry. -/
abbrev EntryNames : Type := List EntryName

structure Disk where
  files : OrdMap EntryNames String
  /-- The directories, which stay when their files go. -/
  directories : OrdMap EntryNames Unit
  home : EntryNames
  deriving DecidableEq, Repr

namespace Disk

def addDirectory (d : Disk) (entry : EntryNames) : Disk :=
  let above := (List.range (entry.length + 1)).map entry.take
  { d with directories := above.foldl (fun ds e => ds.insert e ()) d.directories }

def addFile (d : Disk) (entry : EntryNames) (text : String) : Disk :=
  let d := d.addDirectory entry.dropLast
  { d with files := d.files.insert entry text }

def empty (home : EntryNames) : Disk := addDirectory ⟨∅,∅,home⟩ home

def isDirectory (d : Disk) (entry : EntryNames) : Bool := d.directories.contains entry

def isEntry (d : Disk) (entry : EntryNames) : Bool :=
  d.isDirectory entry || d.files.contains entry

def follow (entry : EntryNames) (piece : EntryName) : EntryNames :=
  if piece = [] ∨ piece = [Path.dot] then entry
  else if piece = [Path.dot, Path.dot] then entry.dropLast
  else entry ++ [piece]

def startOf (d : Disk) (p : Path) : EntryNames :=
  if p.isAbsolute then [] else d.home

/-- The entry that a path speaks of, be there one or not. -/
def nominal (d : Disk) (p : Path) : EntryNames :=
  p.pieces.foldl follow (d.startOf p)

def passed (d : Disk) (p : Path) : List EntryNames :=
  (List.range p.pieces.length).map fun n => (p.pieces.take n).foldl follow (d.startOf p)

def longestPath : Nat := 4095

def find? (d : Disk) (p : Path) : Option EntryNames := do
  let step := fun entry piece => if d.isDirectory entry then some (follow entry piece) else none
  let entry ← p.pieces.foldlM step (d.startOf p)
  if !p.bytes.isEmpty && p.bytes.length ≤ longestPath && d.isEntry entry then some entry else none

def text? (d : Disk) (p : Path) : Option String :=
  (d.find? p).bind d.files.get?

def write (d : Disk) (p : Path) (text : String) : Disk :=
  d.addFile (d.nominal p) text

def delete (d : Disk) (p : Path) : Disk :=
  { d with files := d.files.erase (d.nominal p) }

def read (d : Disk) (p : Path) : Except Failure String :=
  match d.text? p with
  | some text => .ok text
  | none => .error (.io "No such file or directory (os error 2)")

/-- The ways to split an entry into a directory above it and the names below, the nearest directory
first. -/
def splits (entry : EntryNames) : List (EntryNames × EntryNames) :=
  (List.range entry.length).reverse.map fun n => (entry.take n,entry.drop n)

def ofNames : EntryNames → Path
  | [] => ⟨[]⟩
  | name :: names => ⟨name ++ names.flatMap (Path.slash :: ·)⟩

def verdictIn? (d : Disk) (dir below : EntryNames) (isDirectory : Bool) : Option Bool := do
  let text ← d.files.get? (dir ++ [Text.encodeUtf8 IgnoreFile.fileName.toList])
  (IgnoreFile.ofString text).verdict? (ofNames below) isDirectory

def isHidden (name : EntryName) : Bool := name.head? = some Path.dot

def isShown (d : Disk) (entry : EntryNames) (isDirectory : Bool) : Bool :=
  let verdict? := (splits entry).findSome? fun (dir,below) => d.verdictIn? dir below isDirectory
  verdict?.getD (!entry.getLast?.any isHidden)

def isReached (d : Disk) (dir below : EntryNames) : Bool :=
  (List.range below.length).all fun n =>
    d.isShown (dir ++ below.take (n + 1)) (n + 1 < below.length)

/-- The files that a search of a directory comes to, with their paths below it. A file is what a
search of itself comes to. -/
def filesBelow (d : Disk) (dir : Path) : List (Path × Path) :=
  match d.find? dir with
  | none => []
  | some top =>
    d.files.keys.filterMap fun entry =>
      if top.isPrefixOf entry then
        let below := entry.drop top.length
        if below.isEmpty then some (dir,ofNames [])
        else if d.isReached top below then some (dir.join (ofNames below),ofNames below)
        else none
      else none

end Disk

end SmaliNavigator
