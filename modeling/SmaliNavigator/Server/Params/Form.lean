import SmaliNavigator.Server.Params.Fault
import SmaliNavigator.Uri

/-!
The forms of values in parameters. A form says which JSON values stand for the values of a type, and
what is wrong with the others. A record is an object with its members, or an array with as many
items in the order in which the members are named. Members that a record does not name do not count.

Of several faults in an object a wrong member comes before a missing one. Of wrong members the first
in the order of names counts, and of missing ones the first in the order of the record.
-/

set_option autoImplicit false

namespace SmaliNavigator

namespace Params

abbrev Read (α : Type) : Type := Except ParamsFault α

/-- How a value is read: on its own, or as part of one that several forms look at. -/
inductive Access where
  | own | shared
  deriving DecidableEq, Repr

end Params

open Params

structure Form (α : Type) where
  read : Access → Json → Read α

namespace Form

variable {α β : Type}

instance : Functor Form where
  map f form := ⟨fun access j => f <$> form.read access j⟩

abbrev Check : Type := Form Unit

def check (form : Form α) : Check := (fun _ => ()) <$> form

def ofKind (wanted : String) (f : Json → Option α) : Form α where
  read _ j := (f j).elim (.error (.wrongKind j wanted)) .ok

def any : Form Json := ⟨fun _ j => .ok j⟩

def flag : Form Bool := ofKind "a boolean" Json.bool?

def text : Form String := ofKind "a string" Json.str?

def integer (wanted : String) (lowest bound : Int) : Form Int where
  read _
    | .number (.whole n) =>
      if lowest ≤ n ∧ n < bound then .ok n else .error (.wrongValue (.int n) wanted)
    | j => .error (.wrongKind j wanted)

def int32 : Form Int := integer "i32" (-0x80000000) 0x80000000

def nat32 : Form Nat := Int.toNat <$> integer "u32" 0 0x100000000

def real : Check := ofKind "f32" fun
  | .number _ => some ()
  | _ => none

def uri : Form Uri where
  read _ j :=
    match j.str? with
    | none => .error (.wrongKind j "a string representing an URL")
    | some s => (Uri.ofString s).mapError fun e => .wrongValue j e.message

def optional (form : Form α) : Form (Option α) where
  read
    | _, .null => .ok none
    | access, j => some <$> form.read access j

def list (form : Form α) : Form (List α) where
  read
    | access, .arr xs => xs.mapM (form.read access)
    | _, j => .error (.wrongKind j "a sequence")

def pair (form : Form α) : Form (α × α) where
  read
    | access, .arr [a, b] => do return (← form.read access a,← form.read access b)
    | _, .arr xs => .error (.wrongLength xs.length "an array of length 2")
    | _, j => .error (.wrongKind j "an array of length 2")

def table (name : Form α) (form : Form β) : Form (List (α × β)) where
  read
    | access, .obj ms => ms.mapM fun (n,v) => do
      return (← name.read access (.str n),← form.read access v)
    | _, j => .error (.wrongKind j "a map")

/-- One of some words. A word may also be the only member of an object, and has no value then. -/
def word (words : List String) : Form String where
  read access
    | .str w => find w
    | .obj [(w,v)] => do
      let w ← find w
      match v, access with
      | .null, _ | .obj [], .shared => return w
      | v, _ => .error (.wrongKind v "unit")
    | .obj ms => .error (.wrongValue (.obj ms) "map with a single key")
    | j => .error (.wrongKind j "string or map")
where
  find (w : String) : Read String :=
    if words.contains w then .ok w else .error (.unknownWord w words)

def choice (name : String) (forms : List (Form α)) : Form α where
  read _ j :=
    match forms.findSome? fun form => (form.read .shared j).toOption with
    | some a => .ok a
    | none => .error (.noChoice name)

end Form

namespace Params

inductive MemberFault where
  | wrong (name : String) (fault : ParamsFault)
  | missing (name : String)
  deriving Repr

namespace MemberFault

def fault : MemberFault → ParamsFault
  | wrong _ fault => fault
  | missing name => .missingMember name

/-- The one of two faults that counts, the first of them by the order of the record. -/
def first : MemberFault → MemberFault → MemberFault
  | wrong n e, wrong m f => if n ≤ m then wrong n e else wrong m f
  | missing _, wrong m f => wrong m f
  | e, _ => e

end MemberFault

structure Fields (α : Type) where
  names : List String
  ofObject : Access → Json → Except MemberFault α
  /-- Reads the first items of an array, of which as many as given came before. What is `wanted` is
  the whole record. Gives what is left of the array. -/
  ofItems : Access → (wanted : String) → (before : Nat) → List Json → Read (α × List Json)

namespace Fields

variable {α β : Type}

def nothing (a : α) : Fields α where
  names := []
  ofObject _ _ := .ok a
  ofItems _ _ _ xs := .ok (a,xs)

def append (f : Fields (α → β)) (x : Fields α) : Fields β where
  names := f.names ++ x.names
  ofObject access j :=
    match f.ofObject access j, x.ofObject access j with
    | .ok g, .ok a => .ok (g a)
    | .ok _, .error e => .error e
    | .error e, .ok _ => .error e
    | .error e, .error later => .error (e.first later)
  ofItems access wanted before xs := do
    let (g,xs) ← f.ofItems access wanted before xs
    let (a,xs) ← x.ofItems access wanted (before + f.names.length) xs
    return (g a,xs)

instance : Applicative Fields where
  pure := nothing
  seq f x := append f (x ())

def member (name : String) (form : Form α) (absent? short? : Option α) : Fields α where
  names := [name]
  ofObject access j :=
    match j.get? name with
    | some v => (form.read access v).mapError (.wrong name)
    | none => absent?.elim (.error (.missing name)) .ok
  ofItems
    | _, wanted, before, [] =>
      short?.elim (.error (.wrongLength before wanted)) fun a => .ok (a,[])
    | access, _, _, x :: xs => return (← form.read access x,xs)

def need (name : String) (form : Form α) : Fields α := member name form none none

def may (name : String) (form : Form α) : Fields (Option α) :=
  member name form.optional (some none) none

/-- A member that may be missing from arrays too. -/
def standard (name : String) (form : Form α) (a : α) : Fields α :=
  member name form (some a) (some a)

def check (fields : Fields α) : Fields Unit := (fun _ => ()) <$> fields

def mustHave (name : String) (form : Form α) : Fields Unit := check (need name form)

def mayHave (name : String) (form : Form α) : Fields Unit := check (may name form)

def all (fields : List (Fields Unit)) : Fields Unit :=
  fields.foldr (fun f rest => f *> rest) (nothing ())

def flags (names : List String) : Fields Unit :=
  all (names.map fun name => mayHave name .flag)

def wanted (fields : Fields α) (record : String) : String :=
  record ++ " with " ++ ParamsFault.counted fields.names.length "element"

end Fields

/-- Members that a record takes in from elsewhere, read from an object with what the record does not
name itself. -/
abbrev Borrowed (α : Type) : Type := ReaderT Json (Except ParamsFault) α

namespace Borrowed

variable {α : Type}

def ofFields (fields : Fields α) : Borrowed α :=
  fun j => (fields.ofObject .shared j).mapError MemberFault.fault

def others (form : Form α) : Borrowed (List (String × α)) :=
  fun j => (Form.table .text form).read .shared j

end Borrowed

end Params

namespace Form

variable {α β : Type}

def recordNamed (name : String) : String := "struct " ++ name

def record (name : String) (fields : Fields α) : Form α where
  read access
    | .obj ms => (fields.ofObject access (.obj ms)).mapError MemberFault.fault
    | .arr xs => do
      let wanted := fields.wanted (recordNamed name)
      let (a,rest) ← fields.ofItems access wanted 0 xs
      if rest.isEmpty then return a
      else .error (.wrongLength xs.length (match access with
        | .own => "fewer elements in array"
        | .shared => ParamsFault.counted fields.names.length "element" ++ " in sequence"))
    | j => .error (.wrongKind j (recordNamed name))

/-- A record that takes in members from elsewhere. It is an object always, and its own members are
read first. -/
def extended (name : String) (fields : Fields α) (borrowed : Borrowed β) : Form (α × β) where
  read access
    | .obj ms => do
      let a ← (fields.ofObject access (.obj ms)).mapError MemberFault.fault
      let others := ms.filter fun m => !fields.names.contains m.1
      return (a,← borrowed.run (.obj others))
    | j => .error (.wrongKind j (recordNamed name))

end Form

end SmaliNavigator
