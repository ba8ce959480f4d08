import SmaliNavigator.Class

/-!
What a class declares, without the places where it says so. Two descriptors are the same type
exactly when their shapes are equal.
-/

set_option autoImplicit false

namespace SmaliNavigator

inductive ElementShape where
  | primitive (type : Primitive)
  | object (internal : String)
  deriving DecidableEq, Repr

/-- A type; one that is not an array has no dimensions. -/
structure TypeShape where
  dimensions : Nat
  element : ElementShape
  deriving DecidableEq, Repr

namespace ElementShape

def raw : ElementShape → String
  | primitive t => String.singleton t.code
  | object n => "L" ++ n ++ ";"

end ElementShape

namespace TypeShape

def ofClass (internal : String) : TypeShape := ⟨0,.object internal⟩

def raw (t : TypeShape) : String :=
  String.ofList (List.replicate t.dimensions '[') ++ t.element.raw

end TypeShape

def Element.shape : Element → ElementShape
  | primitive t _ => .primitive t
  | object n => .object n.internal

def Descriptor.shape (t : Descriptor) : TypeShape :=
  ⟨t.dimensions,t.element.shape⟩

theorem Element.same_iff (d e : Element) : d.same e = true ↔ d.shape = e.shape := by
  cases d <;> cases e <;> simp [same, shape]

theorem Element.raw_shape (e : Element) : e.shape.raw = e.raw := by
  cases e <;> rfl

theorem Descriptor.raw_shape (t : Descriptor) : t.shape.raw = t.raw := by
  simp [shape, TypeShape.raw, raw, Element.raw_shape]

structure FieldSketch where
  modifiers : List Modifier
  name : String
  type : TypeShape
  initial? : Option String
  deriving DecidableEq, Repr

structure MethodSketch where
  modifiers : List Modifier
  name : String
  parameters : List TypeShape
  returnType : TypeShape
  deriving DecidableEq, Repr

def MethodSketch.isConstructor (m : MethodSketch) : Bool :=
  m.name == constructorName || m.name == staticInitializerName

structure ClassSketch where
  modifiers : List Modifier
  name : String
  superclass : TypeShape
  /-- The name of the source file in its quotes. -/
  source? : Option String
  interfaces : List TypeShape
  fields : List FieldSketch
  constructors : List MethodSketch
  methods : List MethodSketch
  deriving DecidableEq, Repr

def Field.sketch (f : Field) : FieldSketch :=
  ⟨f.modifiers,f.name.text,f.type.shape,f.initial?.map (·.text)⟩

def Method.sketch (m : Method) : MethodSketch :=
  ⟨m.modifiers,m.name.text,m.parameters.map Descriptor.shape,m.returnType.shape⟩

def Class.sketch (c : Class) : ClassSketch where
  modifiers := c.modifiers
  name := c.name.internal
  superclass := c.superclass.shape
  source? := c.source?.map (·.text)
  interfaces := c.interfaces.map Descriptor.shape
  fields := c.fields.map Field.sketch
  constructors := c.constructors.map Method.sketch
  methods := c.methods.map Method.sketch

theorem Method.isConstructor_sketch (m : Method) : m.sketch.isConstructor = m.isConstructor := rfl

end SmaliNavigator
