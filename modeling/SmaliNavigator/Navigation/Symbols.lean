import SmaliNavigator.Query
import SmaliNavigator.Text.Lowercase

/-!
The symbols of a file as an outline, and the symbols of a project by name.
-/

set_option autoImplicit false

namespace SmaliNavigator

inductive SymbolKind where
  | classType | interfaceType | field | constructorMethod | method
  deriving DecidableEq, Repr

def Class.symbolKind (c : Class) : SymbolKind :=
  if c.isInterface then .interfaceType else .classType

def Method.symbolKind (m : Method) : SymbolKind :=
  if m.isConstructor then .constructorMethod else .method

structure OutlineItem where
  name : String
  detail? : Option String
  kind : SymbolKind
  span : Span
  selection : Span
  deriving DecidableEq, Repr

def OutlineItem.ofField (f : Field) : OutlineItem :=
  ⟨f.name.text,some f.type.readable,.field,f.span,f.name.span⟩

def OutlineItem.ofMethod (m : Method) : OutlineItem :=
  ⟨m.name.text,some m.descriptor,m.symbolKind,m.fullSpan,m.name.span⟩

structure Outline where
  root : OutlineItem
  members : List OutlineItem
  deriving DecidableEq, Repr

def Class.outline (c : Class) : Outline where
  root := ⟨c.name.readable,c.sourceName?,c.symbolKind,c.document.wholeSpan,c.name.span⟩
  members := c.fields.map .ofField ++ c.constructors.map .ofMethod ++ c.methods.map .ofMethod

structure SymbolHit where
  name : String
  kind : SymbolKind
  container? : Option String
  location : Location
  deriving DecidableEq, Repr

def nameContains (needle : List Char) (name : String) : Bool :=
  Text.occursIn needle (Text.lower name.toList)

/-- What a class has for a search by name: itself, its fields, and its methods but the
constructors. -/
def Class.symbolHits (c : Class) (file : Path) : List SymbolHit :=
  let container := some c.name.readable
  ⟨c.name.readable,c.symbolKind,none,⟨file,c.name.span⟩⟩ ::
    c.fields.map (fun f => ⟨f.name.text,.field,container,⟨file,f.name.span⟩⟩) ++
    c.methods.map (fun m => ⟨m.name.text,.method,container,⟨file,m.name.span⟩⟩)

namespace Query

/-- Adds the hits of some files until there are enough or the question is called off. -/
def searchSymbols (needle : List Char) (limit : Nat) : List Path → List SymbolHit →
    Query (List SymbolHit)
  | [], found => return found
  | f :: fs, found => do
    if ← isCalledOff then return found
    if limit ≤ found.length then return found
    let here := match ← classOf? f with
      | some c => (c.symbolHits f).filter fun h => nameContains needle h.name
      | none => []
    searchSymbols needle limit fs (found ++ here)

def workspaceSymbols (text : String) (limit : Nat) : Query (List SymbolHit) := do
  waitReady
  let found ← searchSymbols (Text.lower text.toList) limit (← getIndex).knownFiles []
  return found.take limit

end Query

end SmaliNavigator
