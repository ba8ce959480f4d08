import SmaliNavigator.Member.Reader
import SmaliNavigator.Slicer

/-!
Types, modifiers, parameter lists and members read by offsets.
-/

set_option autoImplicit false

namespace SmaliNavigator

open Text

namespace Slicer

/-! ### Types -/

/-- Reads a class, whose name ends with the first semicolon if no white space comes before it. -/
def classElement : Slicer Element := do
  let start ← offset
  let text ← rest
  let stop := byteCount (text.takeWhile fun x => x != ';' && !isSpace x)
  let after ← cut text stop (byteCount text)
  if after.head? = some ';' then
    let raw ← cut text 0 (stop + 1)
    moveBy (stop + 1)
    let span ← spanFrom start
    match ClassName.ofIdentifier? raw span with
    | some name => return .object name
    | none => fail ⟨span,.emptyClassName (String.ofList raw)⟩
  else fail ⟨← spanBetween start (start + stop),.openClassName⟩

def element : Slicer Element := do
  let start ← offset
  match ← peekChar with
  | none => fail ⟨← spanFrom start,.missingType⟩
  | some code =>
    match Primitive.ofCode? code with
    | some p =>
      moveBy code.utf8Size
      return .primitive p (← spanFrom start)
    | none =>
      if code = 'L' then classElement
      else fail ⟨← spanBetween start (start + code.utf8Size),.unknownType code⟩

def descriptor : Slicer Descriptor := do
  skipSpace
  let start ← offset
  let dimensions := ((← rest).takeWhile (· = '[')).length
  skipWhile (· = '[')
  let e ← element
  if dimensions = 0 then return .single e
  else return .array e dimensions (← spanFrom start)

/-! ### Modifiers and parameters -/

/-- Reads one more modifier; where none comes next, the offset is what it was. -/
def modifierStep : Slicer (Option Modifier) := do
  let saved ← offset
  let token ← readToken
  match Modifier.ofKeyword? token.text with
  | some m => return some m
  | none =>
    moveTo saved
    return none

def modifiers : Slicer (List Modifier) := collect modifierStep

def parameterStep : Slicer (Option Descriptor) := do
  skipInlineSpace
  match ← peekChar with
  | none => fail ⟨.point (← position),.openParameters⟩
  | some x =>
    if x = ')' then
      moveBy x.utf8Size
      return none
    else if x = '\n' ∨ x = '\r' then fail ⟨.point (← position),.openParameters⟩
    else return some (← descriptor)

def parameters : Slicer (List Descriptor) := collect parameterStep

/-! ### Members -/

def lineText (line : Nat) : Slicer (List Char) := do
  if line < (← asks fun d _ => d.lineCount) then
    let start ← asks fun d _ => d.lineStart line
    let stop ← asks fun d _ => d.lineStop line
    return dropEndWhile (· == '\r') (← between start stop)
  else return []

def lineSpan : Slicer Span := do
  let line := (← position).line
  return .within line 0 (byteCount (← lineText line))

def initial : Slicer (Option Token) := do
  if ← expectOnLine "=" then
    let value ← restOfLine
    return if value.text.isEmpty then none else some value
  else return none

def field : Slicer Field := do
  let span ← lineSpan
  let modifiers ← modifiers
  let name ← tokenUntil ':'
  let type ← descriptor
  let initial? ← initial
  return { span, modifiers, name, type, initial? }

def method : Slicer Method := do
  let span ← lineSpan
  let modifiers ← modifiers
  let name ← tokenUntil '('
  let parameters ← parameters
  let returnType ← descriptor
  return { span, body? := none, modifiers, name, parameters, returnType }

def arrowBehind (owner : Descriptor) : Slicer Descriptor := do
  if ← expect "->" then return owner
  else fail ⟨.point (← position),.missingArrow owner.raw⟩

def owner : Slicer Descriptor := do
  let owner ← descriptor
  if owner.className?.isNone then fail ⟨owner.span,.ownerNotAClass owner.raw⟩
  else arrowBehind owner

def fieldReference : Slicer FieldReference := do
  let start ← position
  let owner ← owner
  let name ← tokenUntil ':'
  let type ← descriptor
  let stop ← position
  return ⟨owner,{ span := ⟨start,stop⟩, modifiers := [], name, type, initial? := none }⟩

def methodReference : Slicer MethodReference := do
  let start ← position
  let owner ← owner
  let name ← tokenUntil '('
  let parameters ← parameters
  let returnType ← descriptor
  let stop ← position
  return ⟨owner,
    { span := ⟨start,stop⟩, body? := none, modifiers := [], name, parameters, returnType }⟩

/-! ### The operations of the scanner -/

inductive Operation where
  | skipSpace
  | skipInlineSpace
  | skipLine
  | expect (literal : String)
  | expectOnLine (literal : String)
  | peekChar
  | peekToken
  | readToken
  | tokenUntil (separator : Char)
  | restOfLine
  | type
  | modifiers
  | parameters
  deriving DecidableEq, Repr

namespace Operation

def slicer : Operation → Slicer Unit
  | skipSpace => Slicer.skipSpace
  | skipInlineSpace => Slicer.skipInlineSpace
  | skipLine => Slicer.skipLine
  | expect literal => do let _ ← Slicer.expect literal
  | expectOnLine literal => do let _ ← Slicer.expectOnLine literal
  | peekChar => do let _ ← Slicer.peekChar
  | peekToken => do let _ ← Slicer.peekToken
  | readToken => do let _ ← Slicer.readToken
  | tokenUntil separator => do let _ ← Slicer.tokenUntil separator
  | restOfLine => do let _ ← Slicer.restOfLine
  | type => do let _ ← Slicer.descriptor
  | modifiers => do let _ ← Slicer.modifiers
  | parameters => do let _ ← Slicer.parameters

/-- The offsets behind operations one after another, whether they fail or not; `none` where one of them
has no outcome. -/
def offsets? (d : Document) : (offset : Nat) → List Operation → Option (List Nat)
  | _, [] => some []
  | offset, op :: ops => do
    let (_,next) ← op.slicer.readFrom d offset
    return next :: (← offsets? d next ops)

end Operation

end Slicer

end SmaliNavigator
