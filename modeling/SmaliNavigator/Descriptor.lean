import SmaliNavigator.Text.Alphanumeric
import SmaliNavigator.Text.Blank
import SmaliNavigator.Text.Search
import SmaliNavigator.Text.Position

/-!
Type descriptors: a primitive type is one letter, a class is `Lpackage/Name;`, and each `[` in
front makes an array of what follows.

Two descriptors are the same type when they are written the same; where they stand does not count.
-/

set_option autoImplicit false

namespace SmaliNavigator

open Text

inductive Primitive where
  | void | boolean | byte | short | char | int | long | float | double
  deriving DecidableEq, Repr

namespace Primitive

def all : List Primitive :=
  [void, boolean, byte, short, char, int, long, float, double]

def code : Primitive → Char
  | void => 'V' | boolean => 'Z' | byte => 'B' | short => 'S' | char => 'C'
  | int => 'I' | long => 'J' | float => 'F' | double => 'D'

def ofCode? (c : Char) : Option Primitive :=
  all.find? (·.code == c)

def keyword : Primitive → String
  | void => "void" | boolean => "boolean" | byte => "byte" | short => "short" | char => "char"
  | int => "int" | long => "long" | float => "float" | double => "double"

theorem ofCode?_code (p : Primitive) : ofCode? p.code = some p := by
  cases p <;> rfl

theorem code_of_ofCode? {c : Char} {p : Primitive} (h : ofCode? c = some p) : p.code = c := by
  have := List.find?_some h
  simpa using this

end Primitive

/-- The name of a class as bytecode writes it: `internal` is `package/Name`. -/
structure ClassName where
  internal : String
  span : Span
  deriving DecidableEq, Repr, Inhabited

namespace ClassName

/-- The descriptor `Lpackage/Name;`, by which the project knows the class. -/
def identifier (n : ClassName) : String :=
  "L" ++ n.internal ++ ";"

def readable (n : ClassName) : String :=
  String.ofList (replaceChar '/' '.' n.internal.toList)

def conventionalPath (n : ClassName) : String :=
  n.internal ++ ".smali"

/-- Reads a text that starts with `L`, ends with `;` and has something in between. -/
def ofIdentifier? (cs : List Char) (span : Span) : Option ClassName :=
  match cs with
  | 'L' :: c :: rest =>
    if (c :: rest).getLast? = some ';' ∧ rest ≠ [] then
      some ⟨String.ofList (c :: rest).dropLast,span⟩
    else none
  | _ => none

end ClassName

/-- What an array may hold at its innermost level. -/
inductive Element where
  | primitive (type : Primitive) (span : Span)
  | object (name : ClassName)
  deriving DecidableEq, Repr

namespace Element

def span : Element → Span
  | primitive _ s => s
  | object n => n.span

def raw : Element → String
  | primitive t _ => String.singleton t.code
  | object n => n.identifier

def readable : Element → String
  | primitive t _ => t.keyword
  | object n => n.readable

def className? : Element → Option ClassName
  | primitive _ _ => none
  | object n => some n

def same : Element → Element → Bool
  | primitive s _, primitive t _ => s == t
  | object m, object n => m.internal == n.internal
  | _, _ => false

end Element

/-- A type as a descriptor gives it. An array of arrays is one array of more dimensions. -/
inductive Descriptor where
  | single (element : Element)
  | array (element : Element) (dimensions : Nat) (span : Span)
  deriving DecidableEq, Repr

namespace Descriptor

def span : Descriptor → Span
  | single e => e.span
  | array _ _ s => s

def element : Descriptor → Element
  | single e => e
  | array e _ _ => e

def dimensions : Descriptor → Nat
  | single _ => 0
  | array _ n _ => n

def arrayOf (t : Descriptor) (dimensions : Nat) (span : Span) : Descriptor :=
  array t.element (dimensions + t.dimensions) span

def raw (t : Descriptor) : String :=
  String.ofList (List.replicate t.dimensions '[') ++ t.element.raw

def readable (t : Descriptor) : String :=
  t.element.readable ++ String.join (List.replicate t.dimensions "[]")

/-- The class that the type is or that its arrays hold. -/
def className? (t : Descriptor) : Option ClassName :=
  t.element.className?

def classIdentifier? (t : Descriptor) : Option String :=
  t.className?.map (·.identifier)

/-- The class itself when the type is one, and not an array of it. -/
def asClass? : Descriptor → Option ClassName
  | single (.object n) => some n
  | _ => none

def isVoid : Descriptor → Bool
  | single (.primitive .void _) => true
  | _ => false

def simpleName (t : Descriptor) : String :=
  String.ofList (afterLast '.' t.readable.toList)

def same : Descriptor → Descriptor → Bool
  | single d, single e => d.same e
  | array d m _, array e n _ => m == n && d.same e
  | _, _ => false

def ofChars? (cs : List Char) : Option Descriptor :=
  let dimensions := (cs.takeWhile (· = '[')).length
  let element? :=
    match cs.drop dimensions with
    | [] => none
    | [c] => (Primitive.ofCode? c).map (Element.primitive · .origin)
    | rest =>
      if rest.dropLast.contains ';' then none
      else (ClassName.ofIdentifier? rest .origin).map Element.object
  element?.map fun e =>
    if dimensions = 0 then single e else array e dimensions .origin

def ofString? (s : String) : Option Descriptor := ofChars? s.toList

end Descriptor

def isNameChar (c : Char) : Bool :=
  isAlphanumeric c || c == '_' || c == '$' || c == '-'

/-- The class identifier that a user means: a descriptor is taken as it stands, a name with dots or
slashes is made one. -/
def identifierOfName? (name : String) : Option String :=
  let cs := trim name.toList
  if (ClassName.ofIdentifier? cs .origin).isSome then some (String.ofList cs)
  else if (splitWhere (fun c => c == '.' || c == '/') cs).all (fun part =>
      !part.isEmpty && part.all isNameChar) then
    some ("L" ++ String.ofList (replaceChar '.' '/' cs) ++ ";")
  else none

end SmaliNavigator
