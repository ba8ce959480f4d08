import SmaliNavigator.Descriptor.Reader
import SmaliNavigator.Member

/-!
Reading the definitions of fields and methods, and the references to them.
-/

set_option autoImplicit false

namespace SmaliNavigator

/-- Reads what follows the `.field` keyword. The span is that of the line that the keyword ends on.
A value counts only when something is written behind the `=` on the same line. -/
def Field.reader : Reader Field := do
  let span ← Reader.asks fun c => c.document.lineSpan c.line
  let modifiers ← Reader.total Modifier.readAll
  let name ← Reader.tokenUntil ':'
  let type ← Descriptor.reader
  let initial? ← Reader.total fun c =>
    match c.expectOnLine? "=" with
    | none => (none,c)
    | some after =>
      let (value,last) := after.readRestOfLine
      (if value.text.isEmpty then none else some value,last)
  return { span, modifiers, name, type, initial? }

def Method.reader : Reader Method := do
  let span ← Reader.asks fun c => c.document.lineSpan c.line
  let modifiers ← Reader.total Modifier.readAll
  let name ← Reader.tokenUntil '('
  let parameters ← Descriptor.parametersReader
  let returnType ← Descriptor.reader
  return { span, body? := none, modifiers, name, parameters, returnType }

def ownerReader : Reader Descriptor := do
  let owner ← Descriptor.reader
  if owner.className?.isNone then
    Reader.fail (fun _ => owner.span) (.ownerNotAClass owner.raw)
  else .of fun c =>
    match c.expect? "->" with
    | some after => (.ok owner,after)
    | none => (.error ⟨.point c.position,.missingArrow owner.raw⟩,c)

/-- Reads `Owner->name:Type`. -/
def FieldReference.reader : Reader FieldReference := do
  let start ← Reader.asks Cursor.position
  let owner ← ownerReader
  let name ← Reader.tokenUntil ':'
  let type ← Descriptor.reader
  let stop ← Reader.asks Cursor.position
  return ⟨owner,{ span := ⟨start,stop⟩, modifiers := [], name, type, initial? := none }⟩

/-- Reads `Owner->name(Parameters)Return`. -/
def MethodReference.reader : Reader MethodReference := do
  let start ← Reader.asks Cursor.position
  let owner ← ownerReader
  let name ← Reader.tokenUntil '('
  let parameters ← Descriptor.parametersReader
  let returnType ← Descriptor.reader
  let stop ← Reader.asks Cursor.position
  return ⟨owner,
    { span := ⟨start,stop⟩, body? := none, modifiers := [], name, parameters, returnType }⟩

end SmaliNavigator
