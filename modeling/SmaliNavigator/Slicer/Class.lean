import SmaliNavigator.Class.Reader
import SmaliNavigator.Slicer.Member

/-!
A whole file read by offsets.
-/

set_option autoImplicit false

namespace SmaliNavigator

open Text

namespace Slicer

variable {α : Type}

/-! ### The head of a file -/

def keyword (keyword : String) : Slicer Unit := do
  if ← expect keyword then return ()
  else
    skipSpace
    let p ← position
    fail ⟨⟨p,p.right keyword.toList.length⟩,.missingKeyword keyword⟩

def header : Slicer Header := do
  keyword ".class"
  let modifiers ← modifiers
  let type ← descriptor
  let name ← match type.asClass? with
    | some name => pure name
    | none => fail ⟨type.span,.notAClassName type.raw⟩
  keyword ".super"
  let superclass ← descriptor
  if ← expect ".source" then
    let source ← restOfLine
    return ⟨modifiers,name,superclass,some source⟩
  else return ⟨modifiers,name,superclass,none⟩

/-! ### Instructions -/

/-- What a reading makes of the text from another offset on; the offset stays, and so do faults. -/
def aside (offset : Nat) (s : Slicer α) : Slicer (Except Diagnostic α) :=
  of fun d o => (s.readFrom d offset).map fun out => (.ok out.1,o)

def asideAt (p : Position) (s : Slicer α) : Slicer (Except Diagnostic α) := do
  aside (← asks fun d _ => d.offsetAt p) s

def handed : Except Diagnostic α → Slicer α
  | .ok a => pure a
  | .error x => fail x

def expectAny : List String → Slicer Bool
  | [] => return false
  | l :: ls => do
    if ← expect l then return true else expectAny ls

def firstReference (p : Pattern) (s : Slicer α) (references : α → String → List Reference)
    (line : Nat) : Slicer (List Reference) := do
  match p.findFirst? (← lineText line) with
  | none => return []
  | some m => return references (← handed (← asideAt ⟨line,m.start⟩ s)) m.text

def lastOperand (opcode : String) : Slicer (List Reference) := do
  let _ ← expect opcode
  let operands := (← restOfLine).text.toList
  if operands.contains ',' then
    let start := (← offset) - byteCount (afterLast ',' operands)
    match ← aside (min start (← asks fun d _ => d.size)) descriptor with
    | .ok t => return t.references
    | .error _ => return []
  else return []

/-- What the instruction of a line names. The offset is left on the line. -/
def instruction : Slicer (List Reference) := do
  let line := (← position).line
  if ← expectAny Instruction.fieldOpcodes then
    firstReference Pattern.fieldReference fieldReference FieldReference.references line
  else if ← expect Instruction.callOpcode then
    firstReference Pattern.methodReference methodReference MethodReference.references line
  else
    let token ← peekToken
    match Instruction.typeOpcodes.find? (token.text == ·) with
    | none => return []
    | some opcode => lastOperand opcode

/-! ### Blocks -/

def atEnd : Slicer Bool := asks fun d offset => decide (d.size ≤ offset)

def unclosed (line : Nat) (fault : Fault) : Slicer α := do
  fail ⟨⟨⟨line,0⟩,← position⟩,fault⟩

def blockStep (line : Nat) : Slicer (Option Unit) := do
  if ← expect ".end annotation" then return none
  else
    skipLine
    if ← atEnd then unclosed line .openAnnotationBlock else return some ()

def block (line : Nat) : Slicer (List Unit) := collect (blockStep line)

def instructionStep (line : Nat) : Slicer (Option (List Reference)) := do
  skipSpace
  if ← atEnd then unclosed line .openMethod
  else if ← expect ".end method" then return none
  else
    let here ← instruction
    skipLine
    return some here

def instructions (line : Nat) : Slicer (List (List Reference)) := collect (instructionStep line)

/-! ### Items -/

def methodItem (line : Nat) : Slicer BodyItem := do
  let m ← method
  skipLine
  let named ← instructions line
  let stop ← position
  let references := m.parameters.flatMap Descriptor.references ++ m.returnType.references ++
    named.flatten
  return .method { m with body? := some ⟨⟨line,0⟩,stop⟩ } references

def item (keyword : Token) : Slicer (Option BodyItem) := do
  let line := keyword.span.start.line
  match keyword.text with
  | ".implements" => return some (.interface (← descriptor))
  | ".annotation" =>
    let _ ← block line
    return none
  | ".field" => return some (.field (← field))
  | ".method" => return some (← methodItem line)
  | _ =>
    skipLine
    return none

def itemStep : Slicer (Option (Option BodyItem)) := do
  let keyword ← readToken
  if keyword.text.isEmpty then return none else return some (← item keyword)

def items : Slicer (List (Option BodyItem)) := collect itemStep

def wholeClass : Slicer Class := do
  let header ← header
  let items ← items
  return Class.assemble (← asks fun d _ => d) header (items.flatMap Option.toList)

end Slicer

end SmaliNavigator
