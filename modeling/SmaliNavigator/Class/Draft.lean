import SmaliNavigator.Class.Reader
import SmaliNavigator.Class.Sketch

/-!
Classes to be written. A draft lists the directives of a file in their order, and
`ClassDraft.render` writes each of them on a line of its own.

`ClassDraft.sketch` says what a written draft declares, and `ClassDraft.IsWritable` which drafts can
be written such that they do: no part of a draft runs into what follows it.
-/

set_option autoImplicit false

namespace SmaliNavigator

open Text

inductive ItemDraft where
  | interface (internal : String)
  /-- An annotation block: what follows its keyword, and the lines in it. -/
  | annotationBlock (opening : String) (lines : List String)
  | comment (text : String)
  | field (field : FieldSketch)
  | method (method : MethodSketch) (body : List String)
  deriving DecidableEq, Repr

structure ClassDraft where
  modifiers : List Modifier
  name : String
  superclass : String
  source? : Option String
  items : List ItemDraft
  deriving DecidableEq, Repr

def Modifier.render (ms : List Modifier) : String :=
  String.join (ms.map fun m => m.keyword ++ " ")

def FieldSketch.render (f : FieldSketch) : String :=
  Modifier.render f.modifiers ++ f.name ++ ":" ++ f.type.raw ++
    (match f.initial? with
      | some value => " = " ++ value
      | none => "")

def MethodSketch.render (m : MethodSketch) : String :=
  Modifier.render m.modifiers ++ m.name ++ "(" ++ String.join (m.parameters.map TypeShape.raw) ++
    ")" ++ m.returnType.raw

namespace ItemDraft

def lines : ItemDraft → List String
  | interface n => [".implements " ++ (TypeShape.ofClass n).raw]
  | annotationBlock opening ls => (".annotation " ++ opening) :: ls ++ [".end annotation"]
  | comment t => ["#" ++ t]
  | field f => [".field " ++ f.render]
  | method m body => (".method " ++ m.render) :: body ++ [".end method"]

def interface? : ItemDraft → Option TypeShape
  | interface n => some (.ofClass n)
  | _ => none

def field? : ItemDraft → Option FieldSketch
  | field f => some f
  | _ => none

def method? : ItemDraft → Option MethodSketch
  | method m _ => some m
  | _ => none

end ItemDraft

def IsLine (s : String) : Prop := '\n' ∉ s.toList

instance (s : String) : Decidable (IsLine s) := inferInstanceAs (Decidable (_ ∉ _))

/-- Whether a line does not close a block: its first characters after white space are not those of
the end marker. -/
def IsInside (marker : String) (line : String) : Prop :=
  IsLine line ∧ ¬marker.toList.isPrefixOf (line.toList.dropWhile isSpace)

instance (marker line : String) : Decidable (IsInside marker line) :=
  inferInstanceAs (Decidable (_ ∧ _))

def IsNameBefore (separator : Char) (name : String) : Prop :=
  ∀ c ∈ name.toList, c ≠ separator ∧ isSpace c = false

instance (separator : Char) (name : String) : Decidable (IsNameBefore separator name) :=
  List.decidableBAll (fun c => c ≠ separator ∧ isSpace c = false) name.toList

/-- Whether a text is a value behind an equality sign: one line with something at both ends. -/
def IsValue (s : String) : Prop :=
  IsLine s ∧ s ≠ "" ∧ s.toList.head?.all (fun c => !isInlineSpace c) ∧
    s.toList.getLast?.all (fun c => !isBlank c)

instance (s : String) : Decidable (IsValue s) := inferInstanceAs (Decidable (_ ∧ _ ∧ _ ∧ _))

def IsInternalName (s : String) : Prop :=
  s ≠ "" ∧ ∀ c ∈ s.toList, Pattern.isClassNameChar c = true

instance (s : String) : Decidable (IsInternalName s) :=
  have := List.decidableBAll (Pattern.isClassNameChar · = true) s.toList
  inferInstanceAs (Decidable (_ ∧ _))

def TypeShape.IsWritable (t : TypeShape) : Prop :=
  match t.element with
  | .primitive _ => True
  | .object n => IsInternalName n

instance (t : TypeShape) : Decidable t.IsWritable := by
  unfold TypeShape.IsWritable
  split <;> infer_instance

def FieldSketch.IsWritable (f : FieldSketch) : Prop :=
  IsNameBefore ':' f.name ∧ f.type.IsWritable ∧ ∀ value ∈ f.initial?, IsValue value

instance (f : FieldSketch) : Decidable f.IsWritable :=
  inferInstanceAs (Decidable (_ ∧ _ ∧ ∀ value ∈ f.initial?, _))

def MethodSketch.IsWritable (m : MethodSketch) : Prop :=
  IsNameBefore '(' m.name ∧ (∀ t ∈ m.parameters, t.IsWritable) ∧ m.returnType.IsWritable

instance (m : MethodSketch) : Decidable m.IsWritable :=
  inferInstanceAs (Decidable (_ ∧ (∀ t ∈ m.parameters, _) ∧ _))

def ItemDraft.IsWritable : ItemDraft → Prop
  | interface n => IsInternalName n
  | annotationBlock opening ls => ∀ l ∈ opening :: ls, IsInside ".end annotation" l
  | comment t => IsLine t
  | field f => f.IsWritable
  | method m body => m.IsWritable ∧ ∀ l ∈ body, IsInside ".end method" l

instance (i : ItemDraft) : Decidable i.IsWritable := by
  cases i <;> unfold ItemDraft.IsWritable <;> infer_instance

namespace ClassDraft

def headLines (d : ClassDraft) : List String :=
  [".class " ++ Modifier.render d.modifiers ++ (TypeShape.ofClass d.name).raw,
    ".super " ++ (TypeShape.ofClass d.superclass).raw] ++
    (d.source?.map fun s => ".source \"" ++ s ++ "\"").toList

def render (d : ClassDraft) : String :=
  String.join ((d.headLines ++ d.items.flatMap ItemDraft.lines).map (· ++ "\n"))

def sketch (d : ClassDraft) : ClassSketch where
  modifiers := d.modifiers
  name := d.name
  superclass := .ofClass d.superclass
  source? := d.source?.map fun s => "\"" ++ s ++ "\""
  interfaces := d.items.filterMap ItemDraft.interface?
  fields := d.items.filterMap ItemDraft.field?
  constructors := (d.items.filterMap ItemDraft.method?).filter (·.isConstructor)
  methods := (d.items.filterMap ItemDraft.method?).filter (!·.isConstructor)

def IsWritable (d : ClassDraft) : Prop :=
  IsInternalName d.name ∧ IsInternalName d.superclass ∧ (∀ s ∈ d.source?, IsLine s) ∧
    ∀ i ∈ d.items, i.IsWritable

instance (d : ClassDraft) : Decidable d.IsWritable :=
  inferInstanceAs (Decidable (_ ∧ _ ∧ (∀ s ∈ d.source?, _) ∧ ∀ i ∈ d.items, _))

end ClassDraft

end SmaliNavigator
