import SmaliNavigator.Query
import SmaliNavigator.Text.Search

/-!
The inheritance between the classes of a project. What is asked about may have cycles, more than one
declaration of a class, and parents that the project does not declare.

The walks go level by level. Each level but the last holds a class that the project declares and
that no level before it held, so there are not more levels than files, and two.
-/

set_option autoImplicit false

namespace SmaliNavigator

/-- Adds what is not in a list yet, and also gives what was added. -/
def addNew (known : List String) : List String → List String × List String
  | [] => (known,[])
  | x :: xs =>
    if known.contains x then addNew known xs
    else
      let (all,fresh) := addNew (known ++ [x]) xs
      (all,x :: fresh)

namespace Query

def parentsOf (identifier : String) : Query (List String) := do
  return (← findClasses identifier).flatMap fun (_,c) => c.parentIdentifiers

/-- Extends an ancestry by the parents of the classes of a level, except for the class `origin`
itself. Gives the ancestry and the next level, which is empty when the question is called off. -/
def ascend (origin : String) : (level chain : List String) → Query (List String × List String)
  | [], chain => return (chain,[])
  | id :: level, chain => do
    if ← isCalledOff then return (chain,[])
    let parents := (← parentsOf id).filter (· ≠ origin)
    let (chain,fresh) := addNew chain parents
    let (chain,later) ← ascend origin level chain
    return (chain,fresh ++ later)

def ascendAll (origin : String) : (fuel : Nat) → (level chain : List String) →
    Query (List String)
  | 0, _, chain => return chain
  | _, [], chain => return chain
  | fuel + 1, level, chain => do
    let (chain,next) ← ascend origin level chain
    ascendAll origin fuel next chain

/-- All superclasses and interfaces of a class, the nearest first. Those that the project does not
declare are in the list, and what is above them is not known. -/
def superclasses (identifier : String) : Query (List String) := do
  ascendAll identifier ((← getIndex).files.size + 2) [identifier] []

def mentionsChildOf (level : List String) (d : Document) : Bool :=
  level.any fun id =>
    Text.occursIn (".super " ++ id).toList d.chars ||
    Text.occursIn (".implements " ++ id).toList d.chars

/-- The children of the classes of a level among some files: adds those that are new to what was
found, and gives them as the next level too. -/
def descend (origin : String) (level : List String) : (files : List Path) → (found : List String) →
    Query (List String × List String)
  | [], found => return (found,[])
  | f :: fs, found => do
    if ← isCalledOff then return (found,[])
    let child? ← do
      match ← sourceOf? f with
      | none => pure none
      | some d =>
        if mentionsChildOf level d then
          match ← classOf? f with
          | some c =>
            if level.any c.extendsOrImplements && c.identifier != origin then
              pure (some c.identifier)
            else pure none
          | none => pure none
        else pure none
    let (found,fresh) := addNew found child?.toList
    let (found,later) ← descend origin level fs found
    return (found,fresh ++ later)

def descendAll (origin : String) : (fuel : Nat) → (level found : List String) →
    Query (List String)
  | 0, _, found => return found
  | _, [], found => return found
  | fuel + 1, level, found => do
    if ← isCalledOff then return found
    let (found,next) ← descend origin level (← getIndex).knownFiles found
    descendAll origin fuel next found

/-- All classes that extend or implement a class, directly or not. A text has to say so in so many
words before its class is looked at. -/
def subclasses (identifier : String) : Query (List String) := do
  waitReady
  descendAll identifier ((← getIndex).files.size + 2) [identifier] []

end Query

structure Ancestor where
  identifier : String
  parents : List String
  declares : Bool
  deriving DecidableEq, Repr

abbrev Ancestry : Type := List Ancestor

namespace Ancestry

def find? (a : Ancestry) (identifier : String) : Option Ancestor :=
  List.find? (·.identifier == identifier) a

structure Walk where
  seen : List String
  roots : List String
  deriving DecidableEq, Repr

/-- Walks up from a class. Says whether there is a root on the way, and adds the class itself if it
declares the method and none of its ancestors does. At a class that was seen before, it says whether
that class is a root. -/
def collect (a : Ancestry) : (fuel : Nat) → (identifier : String) → Walk → Bool × Walk
  | 0, _, w => (false,w)
  | fuel + 1, id, w =>
    if w.seen.contains id then (w.roots.contains id,w)
    else
      let w := { w with seen := id :: w.seen }
      match a.find? id with
      | none => (false,w)
      | some node =>
        let (above,w) := node.parents.foldl
          (fun (above,w) parent =>
            let (r,w) := collect a fuel parent w
            (above || r,w))
          (false,w)
        if above then (true,w)
        else if node.declares then (true,{ w with roots := w.roots ++ [id] })
        else (false,w)

def roots (a : Ancestry) (identifier : String) : List String :=
  (a.collect (a.length + 2) identifier ⟨[],[]⟩).2.roots

end Ancestry

namespace Query

def ancestor (method : Method) (acceptPrivate : Bool) (identifier : String) : Query Ancestor := do
  let classes := (← findClasses identifier).map (·.2)
  return {
    identifier
    parents := (classes.flatMap Class.parentIdentifiers).eraseDups
    declares := classes.any fun c =>
      (c.methodsLike method).any fun m => acceptPrivate || !m.isPrivate }

def surveyLevel (method : Method) (acceptPrivate : Bool) : (level : List String) → Ancestry →
    Query (Ancestry × List String)
  | [], a => return (a,[])
  | id :: level, a => do
    if (a.find? id).isSome then surveyLevel method acceptPrivate level a
    else if ← isCalledOff then surveyLevel method acceptPrivate level a
    else
      let node ← ancestor method acceptPrivate id
      let (a,later) ← surveyLevel method acceptPrivate level (a ++ [node])
      return (a,node.parents ++ later)

def survey (method : Method) (acceptPrivate : Bool) : (fuel : Nat) → (level : List String) →
    Ancestry → Query Ancestry
  | 0, _, a => return a
  | _, [], a => return a
  | fuel + 1, level, a => do
    let (a,next) ← surveyLevel method acceptPrivate level a
    survey method acceptPrivate fuel next a

/-- The topmost classes from a class up that declare a method. Private methods count only if they
are accepted, and constructors only in the class itself. -/
def rootDeclarers (identifier : String) (method : Method) (acceptPrivate : Bool) :
    Query (List String) := do
  if method.isConstructor then
    let declared := (← findClasses identifier).any fun (_,c) => c.declaresMethod method
    return if declared then [identifier] else []
  else
    let a ← survey method acceptPrivate ((← getIndex).files.size + 2) [identifier] []
    return a.roots identifier

end Query

end SmaliNavigator
