import SmaliNavigator.Class.Reader

/-!
What symbol is at a place of a document. The answers need no class: they come from the line of the
place alone, but for labels, which are looked up in the lines of their method.
-/

set_option autoImplicit false

namespace SmaliNavigator

open Text

structure LabelUse where
  name : Token
  /-- Where the label stands as a line of its own. -/
  definition? : Option Span
  /-- Every place of the label, the definition among them. -/
  occurrences : List Span
  deriving DecidableEq, Repr

inductive Spot where
  | stringLiteral (token : Token)
  | type (type : Descriptor)
  | fieldReference (reference : FieldReference)
  | methodReference (reference : MethodReference)
  | label (use : LabelUse)
  | fieldDefinition (field : Field)
  | methodDefinition (method : Method)
  deriving DecidableEq, Repr

namespace Spot

/-- The text that is the symbol; of a definition the name. -/
def span : Spot → Span
  | stringLiteral t => t.span
  | type t => t.span
  | fieldReference r => r.field.span
  | methodReference r => r.method.span
  | label l => l.name.span
  | fieldDefinition f => f.name.span
  | methodDefinition m => m.name.span

end Spot

namespace Document

def opensWith (d : Document) (line : Nat) (keyword : String) : Bool :=
  firstWord (d.lineText line) == keyword.toList

def valueAt? {α : Type} (d : Document) (r : Reader α) (line col : Nat) : Option α :=
  (r.value (.atPosition d ⟨line,col⟩)).toOption

def stringAt? (d : Document) (p : Position) : Option Token :=
  (Pattern.stringLiteral.matchAt? (d.lineText p.line) p.col).map fun m =>
    ⟨m.text,m.span p.line⟩

def declarationOn? {α : Type} (d : Document) (keyword : String) (r : Reader α) (line : Nat) :
    Option α :=
  if d.opensWith line keyword then
    let start := Cursor.atPosition d ⟨line,0⟩
    (r.value ((start.expect? keyword).getD start)).toOption
  else none

def fieldDefinitionAt? (d : Document) (p : Position) : Option Field :=
  d.declarationOn? ".field" Field.reader p.line

def methodDefinitionAt? (d : Document) (p : Position) : Option Method :=
  d.declarationOn? ".method" Method.reader p.line

def fieldReferenceAt? (d : Document) (p : Position) : Option FieldReference := do
  let m ← Pattern.fieldReference.matchAt? (d.lineText p.line) p.col
  d.valueAt? FieldReference.reader p.line m.start

def methodReferenceAt? (d : Document) (p : Position) : Option MethodReference := do
  let m ← Pattern.methodReference.matchAt? (d.lineText p.line) p.col
  d.valueAt? MethodReference.reader p.line m.start

def declaredTypes (d : Document) (line : Nat) : List Descriptor :=
  match d.fieldDefinitionAt? ⟨line,0⟩ with
  | some f => [f.type]
  | none =>
    match d.methodDefinitionAt? ⟨line,0⟩ with
    | some m => m.parameters ++ [m.returnType]
    | none => []

def referencedTypes (d : Document) (line : Nat) : List Descriptor :=
  let text := d.lineText line
  let fields := (Pattern.fieldReference.findAll text).filterMap fun m =>
    d.valueAt? FieldReference.reader line m.start
  let methods := (Pattern.methodReference.findAll text).filterMap fun m =>
    d.valueAt? MethodReference.reader line m.start
  fields.flatMap (fun r => [r.owner, r.field.type]) ++
    methods.flatMap (fun r => r.owner :: r.method.parameters ++ [r.method.returnType])

def operandTypes (d : Document) (line : Nat) : List Descriptor :=
  let text := d.lineText line
  if Instruction.typeOpcodes.any (d.opensWith line) && text.contains ',' then
    let col := byteCount text - byteCount (afterLast ',' text)
    (d.valueAt? Descriptor.reader line col).toList
  else []

def signatureTypes (d : Document) (line : Nat) : List Descriptor :=
  d.declaredTypes line ++ d.referencedTypes line ++ d.operandTypes line

def typeAt? (d : Document) (p : Position) : Option Descriptor :=
  let named := do
    let m ← Pattern.owner.matchAt? (d.lineText p.line) p.col
    d.valueAt? Descriptor.reader p.line m.start
  named.or ((d.signatureTypes p.line).find? (·.span.covers p))

def charBefore? (line : List Char) (col : Nat) : Option Char :=
  ((takeBytes? col line).getD []).getLast?

/-- The labels of a line. A colon behind a name or a class descriptor starts none. -/
def labelsOn (line : List Char) : List Match :=
  (Pattern.label.findAll line).filter fun m =>
    !(charBefore? line m.start).any fun c => isNameChar c || c == ';'

def endsMethod (d : Document) (line : Nat) : Bool :=
  trim (d.lineText line) == ".end method".toList

/-- The nearest line from `line` upwards that opens a method, none when the end of a method comes in
between. -/
def methodStart? (d : Document) (line : Nat) : (candidate : Nat) → Option Nat
  | 0 => if d.opensWith 0 ".method" then some 0 else none
  | n + 1 =>
    if d.opensWith (n + 1) ".method" then some (n + 1)
    else if n + 1 ≠ line && d.endsMethod (n + 1) then none
    else d.methodStart? line n

def methodAround? (d : Document) (line : Nat) : Option (Nat × Nat) := do
  let start ← d.methodStart? line line
  let stop ← (List.range' line (d.lineCount - line)).find? d.endsMethod
  return (start,stop)

def isLabelLine (text : List Char) (m : Match) : Bool :=
  m.start == byteCount text - byteCount (trimStart text) && firstWord text == m.chars

def labelAt? (d : Document) (p : Position) : Option LabelUse := do
  let m ← (labelsOn (d.lineText p.line)).find? (·.covers p.col)
  let (start,stop) ← d.methodAround? p.line
  let uses := (List.range' start (stop + 1 - start)).flatMap fun line =>
    let text := d.lineText line
    ((labelsOn text).filter (·.chars == m.chars)).map fun use =>
      (use.span line,isLabelLine text use)
  return {
    name := ⟨m.text,m.span p.line⟩
    definition? := (uses.find? (·.2)).map (·.1)
    occurrences := uses.map (·.1) }

def spotAt? (d : Document) (p : Position) : Option Spot :=
  ((d.stringAt? p).map Spot.stringLiteral).or <|
  ((d.typeAt? p).map Spot.type).or <|
  ((d.fieldReferenceAt? p).map Spot.fieldReference).or <|
  ((d.methodReferenceAt? p).map Spot.methodReference).or <|
  ((d.labelAt? p).map Spot.label).or <|
  ((d.fieldDefinitionAt? p).map Spot.fieldDefinition).or <|
  (d.methodDefinitionAt? p).map Spot.methodDefinition

end Document

end SmaliNavigator
