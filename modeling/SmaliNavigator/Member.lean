import SmaliNavigator.Descriptor
import SmaliNavigator.Modifier

/-!
Fields and methods, and references to them from code.

A member is known by its descriptor: `name:Type` for a field, `name(Parameters)Return` for a method.
A reference puts the owner and an arrow in front, `Lp/Owner;->name:Type`, and that text is its key.
-/

set_option autoImplicit false

namespace SmaliNavigator

def referenceKey (owner descriptor : String) : String :=
  owner ++ "->" ++ descriptor

structure Field where
  span : Span
  modifiers : List Modifier
  name : Token
  type : Descriptor
  initial? : Option Token
  deriving DecidableEq, Repr

namespace Field

def descriptor (f : Field) : String :=
  f.name.text ++ ":" ++ f.type.raw

def key (f : Field) (owner : String) : String :=
  referenceKey owner f.descriptor

def isPrivate (f : Field) : Bool := f.modifiers.contains .privateAccess
def isStatic (f : Field) : Bool := f.modifiers.contains .static

/-- The same name and type; modifiers and places do not count. -/
def same (f g : Field) : Bool :=
  f.name.text == g.name.text && f.type.same g.type

end Field

def constructorName : String := "<init>"

def staticInitializerName : String := "<clinit>"

structure Method where
  span : Span
  /-- From the first line to the end marker, for a method that was read with its body. -/
  body? : Option Span
  modifiers : List Modifier
  name : Token
  parameters : List Descriptor
  returnType : Descriptor
  deriving DecidableEq, Repr

namespace Method

def descriptor (m : Method) : String :=
  m.name.text ++ "(" ++ String.join (m.parameters.map Descriptor.raw) ++ ")" ++ m.returnType.raw

def key (m : Method) (owner : String) : String :=
  referenceKey owner m.descriptor

def isConstructor (m : Method) : Bool :=
  m.name.text == constructorName || m.name.text == staticInitializerName

def isPrivate (m : Method) : Bool := m.modifiers.contains .privateAccess
def isStatic (m : Method) : Bool := m.modifiers.contains .static

def fullSpan (m : Method) : Span :=
  m.body?.getD m.span

def same (m n : Method) : Bool :=
  m.name.text == n.name.text && m.returnType.same n.returnType &&
    m.parameters.isEqv n.parameters Descriptor.same

end Method

/-- A field reference as an instruction writes it; its span is that of the whole reference. -/
structure FieldReference where
  owner : Descriptor
  field : Field
  deriving DecidableEq, Repr

def FieldReference.key (r : FieldReference) : String :=
  r.field.key r.owner.raw

structure MethodReference where
  owner : Descriptor
  method : Method
  deriving DecidableEq, Repr

def MethodReference.key (r : MethodReference) : String :=
  r.method.key r.owner.raw

end SmaliNavigator
