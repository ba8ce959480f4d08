import SmaliNavigator.Class
import SmaliNavigator.Member.Reader
import SmaliNavigator.Symbol.Pattern

/-!
Reading a whole file as a class.

A file is a header and a list of items. The first fault ends the reading, and then there is no class
at all. Along with the declarations the reader records where the text names classes and members.
-/

set_option autoImplicit false

namespace SmaliNavigator

open Text

structure Reference where
  key : String
  span : Span
  deriving DecidableEq, Repr

def Descriptor.references (t : Descriptor) : List Reference :=
  match t.className? with
  | some n => [⟨n.identifier,n.span⟩]
  | none => []

/-- The key, and the classes that its types name. -/
def FieldReference.references (r : FieldReference) (key : String) : List Reference :=
  r.owner.references ++ r.field.type.references ++ [⟨key,r.field.span⟩]

def MethodReference.references (r : MethodReference) (key : String) : List Reference :=
  r.owner.references ++ r.method.parameters.flatMap Descriptor.references ++
    r.method.returnType.references ++ [⟨key,r.method.span⟩]

namespace Instruction

def fieldOpcodes : List String := ["iget", "iput", "sget", "sput"]

def callOpcode : String := "invoke"

def typeOpcodes : List String :=
  ["const-class", "new-instance", "check-cast", "instance-of", "new-array", "filled-new-array"]

def lastOperand? (c : Cursor) : Option Cursor :=
  let c := c.skipInlineSpace
  let operands := trimEnd (c.rest.takeWhile (· ≠ '\n'))
  if operands.contains ',' then
    some (c.advance (operands.length - (afterLast ',' operands).length))
  else none

/-- What an instruction names. Of a field access or a call it is the first reference of the line, of
an instruction on a type the last operand. The cursor is at the opcode. -/
def references (c : Cursor) : Except Diagnostic (List Reference) :=
  let line := c.line
  let d := c.document
  if fieldOpcodes.any (fun op => (c.expect? op).isSome) then
    match Pattern.fieldReference.findFirst? (d.lineText line) with
    | none => .ok []
    | some m => do
      let r ← FieldReference.reader.value (.atPosition d ⟨line,m.start⟩)
      return r.references m.text
  else if (c.expect? callOpcode).isSome then
    match Pattern.methodReference.findFirst? (d.lineText line) with
    | none => .ok []
    | some m => do
      let r ← MethodReference.reader.value (.atPosition d ⟨line,m.start⟩)
      return r.references m.text
  else
    match typeOpcodes.find? (c.peekToken.text == ·) with
    | none => .ok []
    | some op =>
      match (c.expect? op).bind lastOperand? with
      | none => .ok []
      | some operand =>
        match Descriptor.reader.value operand with
        | .ok t => .ok t.references
        | .error _ => .ok []

end Instruction

structure Header where
  modifiers : List Modifier
  name : ClassName
  superclass : Descriptor
  source? : Option Token
  deriving DecidableEq, Repr

/-- An item behind the head of a file. A method comes with the references of its signature and of
its body. -/
inductive BodyItem where
  | interface (type : Descriptor)
  | field (field : Field)
  | method (method : Method) (references : List Reference)
  deriving DecidableEq, Repr

namespace BodyItem

def references : BodyItem → List Reference
  | interface t => t.references
  | field f => f.type.references
  | method _ rs => rs

def interface? : BodyItem → Option Descriptor
  | interface t => some t
  | _ => none

def field? : BodyItem → Option Field
  | field f => some f
  | _ => none

def method? : BodyItem → Option Method
  | method m _ => some m
  | _ => none

end BodyItem

namespace Class

def missingKeyword (c : Cursor) (keyword : String) : Diagnostic :=
  let p := c.skipSpace.position
  ⟨⟨p,p.right keyword.toList.length⟩,.missingKeyword keyword⟩

def expectKeyword (c : Cursor) (keyword : String) : Except Diagnostic Cursor :=
  match c.expect? keyword with
  | some after => .ok after
  | none => .error (missingKeyword c keyword)

def readHeader (c : Cursor) : Except Diagnostic (Header × Cursor) := do
  let c ← expectKeyword c ".class"
  let (modifiers,c) := Modifier.readAll c
  let (named,c) := Descriptor.reader.read c
  let type ← named
  let name ← match type.asClass? with
    | some name => pure name
    | none => .error ⟨type.span,.notAClassName type.raw⟩
  let c ← expectKeyword c ".super"
  let (extended,c) := Descriptor.reader.read c
  let superclass ← extended
  match c.expect? ".source" with
  | none => return (⟨modifiers,name,superclass,none⟩,c)
  | some c =>
    let (source,c) := c.readRestOfLine
    return (⟨modifiers,name,superclass,some source⟩,c)

def blockSpan (line : Nat) (c : Cursor) : Span := ⟨⟨line,0⟩,c.position⟩

def skipBlock (line : Nat) : (fuel : Nat) → Cursor → Except Diagnostic Cursor
  | 0, c => .error ⟨blockSpan line c,.openAnnotationBlock⟩
  | fuel + 1, c =>
    match c.expect? ".end annotation" with
    | some after => .ok after
    | none =>
      let c := c.skipLine
      if c.atEnd then .error ⟨blockSpan line c,.openAnnotationBlock⟩ else skipBlock line fuel c

def readInstructions (line : Nat) : (fuel : Nat) → Cursor →
    Except Diagnostic (List Reference × Cursor)
  | 0, c => .error ⟨blockSpan line c,.openMethod⟩
  | fuel + 1, c =>
    let c := c.skipSpace
    if c.atEnd then .error ⟨blockSpan line c,.openMethod⟩
    else match c.expect? ".end method" with
      | some after => .ok ([],after)
      | none => do
        let here ← Instruction.references c
        let (later,last) ← readInstructions line fuel c.skipLine
        return (here ++ later,last)

def readMethod (line : Nat) (c : Cursor) : Except Diagnostic (BodyItem × Cursor) := do
  let (signature,c) := Method.reader.read c
  let m ← signature
  let c := c.skipLine
  let (named,c) ← readInstructions line (c.rest.length + 1) c
  let references := m.parameters.flatMap Descriptor.references ++ m.returnType.references ++ named
  return (.method { m with body? := some (blockSpan line c) } references,c)

def readItem (keyword : Token) (c : Cursor) : Except Diagnostic (Option BodyItem × Cursor) :=
  let line := keyword.span.start.line
  match keyword.text with
  | ".implements" => do
    let (type,c) := Descriptor.reader.read c
    return (some (.interface (← type)),c)
  | ".annotation" => do
    return (none,← skipBlock line (c.rest.length + 1) c)
  | ".field" => do
    let (field,c) := Field.reader.read c
    return (some (.field (← field)),c)
  | ".method" => do
    let (item,c) ← readMethod line c
    return (some item,c)
  | _ => .ok (none,c.skipLine)

def readItems : (fuel : Nat) → Cursor → Except Diagnostic (List BodyItem)
  | 0, _ => .ok []
  | fuel + 1, c =>
    let (keyword,c) := c.readToken
    if keyword.text.isEmpty then .ok []
    else do
      let (item?,c) ← readItem keyword c
      let items ← readItems fuel c
      return item?.toList ++ items

def indexReferences (rs : List Reference) : OrdMap String (List Span) :=
  rs.foldl (fun m r => m.insert r.key ((m.get? r.key).getD [] ++ [r.span])) ∅

def assemble (d : Document) (h : Header) (items : List BodyItem) : Class :=
  let methods := items.filterMap BodyItem.method?
  { name := h.name
    modifiers := h.modifiers
    superclass := h.superclass
    source? := h.source?
    interfaces := items.filterMap BodyItem.interface?
    fields := items.filterMap BodyItem.field?
    constructors := methods.filter (·.isConstructor)
    methods := methods.filter (!·.isConstructor)
    references := indexReferences (h.superclass.references ++ items.flatMap BodyItem.references)
    document := d }

def ofDocument (d : Document) : Except Diagnostic Class := do
  let (header,c) ← readHeader (.start d)
  let items ← readItems (c.rest.length + 1) c
  return assemble d header items

def ofString (text : String) : Except Diagnostic Class :=
  ofDocument (.ofString text)

/-- The name of the class, from the first line of its file alone. -/
def nameOf? (d : Document) : Option ClassName :=
  match (Cursor.start d).expect? ".class" with
  | none => none
  | some c =>
    match Descriptor.reader.value (Modifier.readAll c).2 with
    | .ok t => t.asClass?
    | .error _ => none

end Class

end SmaliNavigator
