import SmaliNavigator.Navigation.References

/-!
The edits that rename a symbol.

A member is renamed behind the arrow of each of its keys and where it is declared, a class in each
of its descriptors together with the files that declare it, a label in its method.
-/

set_option autoImplicit false

namespace SmaliNavigator

structure TextEdit where
  span : Span
  text : String
  deriving DecidableEq, Repr

/-- Edits in the order of their spans, and of their texts where the spans agree. -/
def TextEdit.le (a b : TextEdit) : Bool :=
  if a.span = b.span then (compare a.text b.text).isLE else a.span.le b.span

structure RenameEdits where
  edits : PathMap (List TextEdit)
  /-- Files that move, with their new paths. -/
  moves : List (Path × Path)
  deriving DecidableEq, Repr

namespace RenameEdits

def ofEdits (es : List (Path × TextEdit)) (moves : List (Path × Path)) : RenameEdits :=
  let grouped : PathMap (List TextEdit) :=
    es.foldl (fun m (f,e) => m.insert f ((m.get? f).getD [] ++ [e])) ∅
  { edits := grouped.mapValues fun es => dropRepeats (· == ·) (es.mergeSort TextEdit.le)
    moves }

def isEmpty (r : RenameEdits) : Bool := r.edits.isEmpty && r.moves.isEmpty

def count (r : RenameEdits) : Nat :=
  r.edits.toList.foldl (fun n (_,es) => n + es.length) 0

/-- Where the name stands in an occurrence of a key: behind its first arrow. -/
def nameColumn? (key : String) : Option Nat :=
  (Text.splitAtFirst? "->".toList key.toList).map fun (owner,_) => Text.byteCount owner + 2

def ofMember (occurrences : Occurrences) (declarations : List Location) (old new : String) :
    RenameEdits :=
  let named := occurrences.flatMap fun (key,ls) =>
    match nameColumn? key with
    | none => []
    | some col => ls.map fun l =>
      let start := l.span.start.right col
      (l.file,TextEdit.mk ⟨start,start.right old.utf8ByteSize⟩ new)
  ofEdits (named ++ declarations.map fun l => (l.file,⟨l.span,new⟩)) []

def movesOf (files : List Path) (old new : String) : List (Path × Path) :=
  let pathOf := fun id => (Descriptor.ofString? id).bind fun t =>
    t.className?.map fun n => Path.ofString n.conventionalPath
  match pathOf old, pathOf new with
  | some oldPath, some newPath =>
    files.filterMap fun f =>
      let target := f.relocated oldPath newPath
      if target.same f then none else some (f,target)
  | _, _ => []

def ofClass (occurrences : List Location) (files : List Path) (old new : String) : RenameEdits :=
  ofEdits (occurrences.map fun l => (l.file,⟨l.span,new⟩)) (movesOf files old new)

def ofLabel (file : Path) (occurrences : List Span) (new : String) : RenameEdits :=
  ofEdits (occurrences.map fun s => (file,⟨s,new⟩)) []

end RenameEdits

def isMemberName (name : String) : Bool :=
  !name.isEmpty && name.toList.all isNameChar

/-- The text of a label that a user means, who may leave the colon out. -/
def labelOfName? (name : String) : Option String :=
  let bare := match name.toList with
    | ':' :: rest => String.ofList rest
    | _ => name
  if isMemberName bare then some (":" ++ bare) else none

namespace Query

def refuse {α : Type} (r : Refusal) : Query (Except Refusal α) := return .error r

def renameFamily (family : MemberFamily) (old new : String) :
    Query (Except Refusal RenameEdits) := do
  let occurrences ← findOccurrences family.symbols
  return .ok (.ofMember occurrences family.declarations old new)

def renameField (owner : String) (field : Field) (isDeclaration : Bool) (new : String) :
    Query (Except Refusal RenameEdits) := do
  renameFamily (← fieldFamily owner field isDeclaration) field.name.text new

def renameMethod (owner : String) (method : Method) (new : String) :
    Query (Except Refusal RenameEdits) := do
  renameFamily (← methodFamily owner method) method.name.text new

def withClassOf {α : Type} (file : Path) (f : Class → Query (Except Refusal α)) :
    Query (Except Refusal α) := do
  match ← classOf? file with
  | some c => f c
  | none => refuse (.doesNotParse file.text)

def renameClass (t : Descriptor) (new : String) : Query (Except Refusal RenameEdits) := do
  match t.classIdentifier? with
  | none => refuse (.primitive t.readable)
  | some old =>
    match identifierOfName? new with
    | none => refuse (.invalidName new)
    | some new =>
      match (← findClasses old).map (·.1) with
      | [] => refuse (.notDeclared t.readable)
      | files =>
        let occurrences ← findOccurrences [old]
        return .ok (.ofClass (occurrences.flatMap (·.2)) files old new)

def renameSpot (file : Path) (new : String) : Spot → Query (Except Refusal RenameEdits)
  | .stringLiteral _ => refuse .stringLiteral
  | .label l =>
    match labelOfName? new with
    | none => refuse (.invalidName new)
    | some label => return .ok (.ofLabel file l.occurrences label)
  | .type t => renameClass t new
  | .fieldReference r =>
    if isMemberName new then renameField r.owner.raw r.field false new
    else refuse (.invalidName new)
  | .fieldDefinition f =>
    if isMemberName new then withClassOf file fun c => renameField c.identifier f true new
    else refuse (.invalidName new)
  | .methodReference r =>
    if r.method.isConstructor then refuse .constructorName
    else if isMemberName new then renameMethod r.owner.raw r.method new
    else refuse (.invalidName new)
  | .methodDefinition m =>
    if m.isConstructor then refuse .constructorName
    else if isMemberName new then withClassOf file fun c => renameMethod c.identifier m new
    else refuse (.invalidName new)

def rename (file : Path) (p : Position) (new : String) : Query (Except Refusal RenameEdits) := do
  match ← spotIn? file p with
  | none => refuse .nothingHere
  | some s => renameSpot file new s

end Query

end SmaliNavigator
