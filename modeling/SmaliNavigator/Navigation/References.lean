import SmaliNavigator.Index.Occurrence
import SmaliNavigator.Navigation.Definition

/-!
All places of a symbol.

A member is written with any class that has it, so its places are those of a family of keys: of a
field, for the classes that declare it and all their subclasses; of a method, for the topmost
classes that declare it and all their subclasses.
-/

set_option autoImplicit false

namespace SmaliNavigator

/-- The keys that a member is written as, and where it is declared. -/
structure MemberFamily where
  symbols : List String
  declarations : List Location
  deriving DecidableEq, Repr

namespace Query

def withSubclasses : List String → (family : List String) → Query (List String)
  | [], family => return family
  | id :: ids, family => do
    let below ← subclasses id
    withSubclasses ids (addNew family (id :: below)).1

def nameLocations (select : Class → List Token) : List String → Query (List Location)
  | [] => return []
  | id :: ids => do
    let here ← membersOf select id
    return here.map (fun d => ⟨d.file,d.member.span⟩) ++ (← nameLocations select ids)

def fieldFamily (owner : String) (field : Field) (isDeclaration : Bool) :
    Query MemberFamily := do
  let declared ← if isDeclaration then pure [] else resolveField owner field
  let declaring := match (declared.map (·.owner.identifier)).eraseDups with
    | [] => [owner]
    | ids => ids
  let declarations ← nameLocations (fun c => (c.fieldsLike field).map (·.name)) declaring
  let family ← withSubclasses declaring []
  return ⟨family.map field.key,declarations⟩

/-- The classes that a method is reached through. A private method is never above a class, and a
constructor is reached through its class only. -/
def methodOwners (owner : String) (method : Method) : Query (List String) := do
  if method.isConstructor then return [owner]
  else
    match ← rootDeclarers owner method false with
    | [] => withSubclasses [owner] []
    | roots => withSubclasses roots []

def methodFamily (owner : String) (method : Method) : Query MemberFamily := do
  let family ← methodOwners owner method
  let declarations ← nameLocations (fun c => (c.methodsLike method).map (·.name)) family
  return ⟨family.map method.key,declarations⟩

def familyPlaces (family : MemberFamily) : Query (List Location × List Location) := do
  let found ← findOccurrences family.symbols
  return (found.flatMap (·.2),family.declarations)

/-- The places of a symbol of a file, and those where it is declared; nothing for a symbol that has
no places. -/
def placesOf (file : Path) : Spot → Query (Option (List Location × List Location))
  | .stringLiteral _ => return none
  | .label l =>
    return some (l.occurrences.map fun s => ⟨file,s⟩,l.definition?.toList.map fun s => ⟨file,s⟩)
  | .type t => do
    match t.classIdentifier? with
    | none => return none
    | some id =>
      let found ← findOccurrences [id]
      let classes ← findClasses id
      return some (found.flatMap (·.2),classLocations classes)
  | .fieldReference r => do
    return some (← familyPlaces (← fieldFamily r.owner.raw r.field false))
  | .fieldDefinition f => do
    match ← classOf? file with
    | none => return none
    | some c => return some (← familyPlaces (← fieldFamily c.identifier f true))
  | .methodReference r => do
    return some (← familyPlaces (← methodFamily r.owner.raw r.method))
  | .methodDefinition m => do
    match ← classOf? file with
    | none => return none
    | some c => return some (← familyPlaces (← methodFamily c.identifier m))

def references (file : Path) (p : Position) (withDeclarations : Bool) : Query (List Location) := do
  match ← spotIn? file p with
  | none => return []
  | some s =>
    match ← placesOf file s with
    | none => return []
    | some (found,declarations) =>
      return Location.arrange <|
        if withDeclarations then found ++ declarations
        else found.filter fun l => !declarations.any l.same

end Query

end SmaliNavigator
