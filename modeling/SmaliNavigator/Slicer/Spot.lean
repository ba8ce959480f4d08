import SmaliNavigator.Slicer.Class
import SmaliNavigator.Spot

/-!
The symbol at a place, read by offsets.
-/

set_option autoImplicit false

namespace SmaliNavigator

open Text

namespace Slicer

variable {α : Type}

/-! ### Members of a line -/

def opensWith (line : Nat) (keyword : String) : Slicer Bool := do
  return firstWord (← lineText line) == keyword.toList

def valueAt (s : Slicer α) (line col : Nat) : Slicer (Option α) := do
  return (← asideAt ⟨line,col⟩ s).toOption

def declarationOn (keyword : String) (s : Slicer α) (line : Nat) : Slicer (Option α) := do
  if ← opensWith line keyword then
    valueAt (do
      let _ ← expect keyword
      s) line 0
  else return none

def fieldDefinitionAt (p : Position) : Slicer (Option Field) :=
  declarationOn ".field" field p.line

def methodDefinitionAt (p : Position) : Slicer (Option Method) :=
  declarationOn ".method" method p.line

def matchedAt (pattern : Pattern) (s : Slicer α) (p : Position) : Slicer (Option α) := do
  match pattern.matchAt? (← lineText p.line) p.col with
  | some m => valueAt s p.line m.start
  | none => return none

def fieldReferenceAt (p : Position) : Slicer (Option FieldReference) :=
  matchedAt Pattern.fieldReference fieldReference p

def methodReferenceAt (p : Position) : Slicer (Option MethodReference) :=
  matchedAt Pattern.methodReference methodReference p

/-! ### Types of a line -/

def declaredTypes (line : Nat) : Slicer (List Descriptor) := do
  match ← fieldDefinitionAt ⟨line,0⟩ with
  | some f => return [f.type]
  | none =>
    match ← methodDefinitionAt ⟨line,0⟩ with
    | some m => return m.parameters ++ [m.returnType]
    | none => return []

def matchedOn (pattern : Pattern) (s : Slicer α) (line : Nat) : Slicer (List α) := do
  let values ← (pattern.findAll (← lineText line)).mapM fun m => valueAt s line m.start
  return values.filterMap id

def referencedTypes (line : Nat) : Slicer (List Descriptor) := do
  let fields ← matchedOn Pattern.fieldReference fieldReference line
  let methods ← matchedOn Pattern.methodReference methodReference line
  return fields.flatMap (fun r => [r.owner,r.field.type]) ++
    methods.flatMap (fun r => r.owner :: r.method.parameters ++ [r.method.returnType])

def operandTypes (line : Nat) : Slicer (List Descriptor) := do
  let text ← lineText line
  if Instruction.typeOpcodes.any (firstWord text == ·.toList) && text.contains ',' then
    return (← valueAt descriptor line (byteCount text - byteCount (afterLast ',' text))).toList
  else return []

def signatureTypes (line : Nat) : Slicer (List Descriptor) := do
  return (← declaredTypes line) ++ (← referencedTypes line) ++ (← operandTypes line)

def orElse (s t : Slicer (Option α)) : Slicer (Option α) := do
  match ← s with
  | some a => return some a
  | none => t

def typeAt (p : Position) : Slicer (Option Descriptor) :=
  orElse (matchedAt Pattern.owner descriptor p) do
    return (← signatureTypes p.line).find? (·.span.covers p)

/-! ### Labels -/

def labelsOn (text : List Char) : Slicer (List Match) := do
  let labels ← (Pattern.label.findAll text).mapM fun m => do
    let before ← cut text 0 m.start
    return if !before.getLast?.any fun c => isNameChar c || c == ';' then some m else none
  return labels.filterMap id

def endsMethod (line : Nat) : Slicer Bool := do
  return trim (← lineText line) == ".end method".toList

def methodStart (line : Nat) : (candidate : Nat) → Slicer (Option Nat)
  | 0 => do
    if ← opensWith 0 ".method" then return some 0 else return none
  | n + 1 => do
    if ← opensWith (n + 1) ".method" then return some (n + 1)
    else if n + 1 ≠ line && (← endsMethod (n + 1)) then return none
    else methodStart line n

def methodAround (line : Nat) : Slicer (Option (Nat × Nat)) := do
  match ← methodStart line line with
  | none => return none
  | some start =>
    let count ← asks fun d _ => d.lineCount
    match ← (List.range' line (count - line)).findM? endsMethod with
    | none => return none
    | some stop => return some (start,stop)

def labelUses (chars : List Char) (line : Nat) : Slicer (List (Span × Bool)) := do
  let text ← lineText line
  return ((← labelsOn text).filter (·.chars == chars)).map fun use =>
    (use.span line,Document.isLabelLine text use)

def labelAt (p : Position) : Slicer (Option LabelUse) := do
  match (← labelsOn (← lineText p.line)).find? (·.covers p.col) with
  | none => return none
  | some m =>
    match ← methodAround p.line with
    | none => return none
    | some (start,stop) =>
      let uses := (← (List.range' start (stop + 1 - start)).mapM (labelUses m.chars)).flatten
      return some {
        name := ⟨m.text,m.span p.line⟩
        definition? := (uses.find? (·.2)).map (·.1)
        occurrences := uses.map (·.1) }

/-! ### Symbols -/

def stringAt (p : Position) : Slicer (Option Token) := do
  return (Pattern.stringLiteral.matchAt? (← lineText p.line) p.col).map fun m =>
    ⟨m.text,m.span p.line⟩

def spotAt (p : Position) : Slicer (Option Spot) :=
  orElse (do return (← stringAt p).map Spot.stringLiteral) <|
  orElse (do return (← typeAt p).map Spot.type) <|
  orElse (do return (← fieldReferenceAt p).map Spot.fieldReference) <|
  orElse (do return (← methodReferenceAt p).map Spot.methodReference) <|
  orElse (do return (← labelAt p).map Spot.label) <|
  orElse (do return (← fieldDefinitionAt p).map Spot.fieldDefinition) do
  return (← methodDefinitionAt p).map Spot.methodDefinition

end Slicer

end SmaliNavigator
