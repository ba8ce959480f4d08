import SmaliNavigator.Member
import SmaliNavigator.OrdMap
import SmaliNavigator.Text.Document

/-!
Classes as a file declares them.
-/

set_option autoImplicit false

namespace SmaliNavigator

structure Class where
  name : ClassName
  modifiers : List Modifier
  superclass : Descriptor
  source? : Option Token
  interfaces : List Descriptor
  fields : List Field
  constructors : List Method
  methods : List Method
  /-- The spans at which each class descriptor and each member reference was read. -/
  references : OrdMap String (List Span)
  document : Document
  deriving DecidableEq, Repr

namespace Class

def identifier (c : Class) : String := c.name.identifier

def text (c : Class) : String := c.document.text

def byteSize (c : Class) : Nat := c.document.size

def sourceName? (c : Class) : Option String :=
  c.source?.map fun t =>
    String.ofList (Text.dropEndWhile (· == '"') (t.text.toList.dropWhile (· == '"')))

def isInterface (c : Class) : Bool := c.modifiers.contains .interface

def parents (c : Class) : List Descriptor :=
  c.superclass :: c.interfaces

/-- The identifiers of the parents that are classes or arrays of classes. -/
def parentIdentifiers (c : Class) : List String :=
  c.parents.filterMap (·.classIdentifier?)

def extendsOrImplements (c : Class) (identifier : String) : Bool :=
  c.parentIdentifiers.contains identifier

def allMethods (c : Class) : List Method :=
  c.constructors ++ c.methods

def fieldsLike (c : Class) (f : Field) : List Field :=
  c.fields.filter (·.same f)

def methodsLike (c : Class) (m : Method) : List Method :=
  c.allMethods.filter (·.same m)

def declaresMethod (c : Class) (m : Method) : Bool :=
  c.allMethods.any (·.same m)

def referencesTo (c : Class) (key : String) : List Span :=
  (c.references.get? key).getD []

/-- The same declarations; texts, places and references do not count. -/
def sameStructure (c d : Class) : Bool :=
  c.identifier == d.identifier && c.modifiers == d.modifiers &&
  c.superclass.same d.superclass &&
  c.interfaces.isEqv d.interfaces Descriptor.same &&
  c.fields.isEqv d.fields Field.same &&
  c.constructors.isEqv d.constructors Method.same &&
  c.methods.isEqv d.methods Method.same

end Class

end SmaliNavigator
