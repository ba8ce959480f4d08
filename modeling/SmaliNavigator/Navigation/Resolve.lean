import SmaliNavigator.Index.Hierarchy
import SmaliNavigator.Spot

/-!
Which declaration a reference to a member means.
-/

set_option autoImplicit false

namespace SmaliNavigator

structure Declaration (α : Type) where
  file : Path
  owner : Class
  member : α
  deriving DecidableEq, Repr

namespace Query

def membersOf {α : Type} (select : Class → List α) (identifier : String) :
    Query (List (Declaration α)) := do
  return (← findClasses identifier).flatMap fun (f,c) => (select c).map fun m => ⟨f,c,m⟩

def firstMembers {α : Type} (select : Class → List α) : List String →
    Query (List (Declaration α))
  | [] => return []
  | id :: ids => do
    let found ← membersOf select id
    if found.isEmpty then firstMembers select ids else return found

def lookupOrder (owner : String) : Query (List String) := do
  return owner :: (← superclasses owner)

def resolveField (owner : String) (field : Field) : Query (List (Declaration Field)) := do
  firstMembers (·.fieldsLike field) (← lookupOrder owner)

/-- The declarations of a method in the nearest class that has any. Constructors are looked for in
the owner only. -/
def resolveMethod (owner : String) (method : Method) : Query (List (Declaration Method)) := do
  let order ← if method.isConstructor then pure [owner] else lookupOrder owner
  firstMembers (·.methodsLike method) order

/-- The symbol at a position of a file as the editor shows it. -/
def spotIn? (file : Path) (p : Position) : Query (Option Spot) := do
  return (← document? file).bind (·.spotAt? p)

end Query

end SmaliNavigator
