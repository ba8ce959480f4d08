import SmaliNavigator.Cursor
import SmaliNavigator.Descriptor
import SmaliNavigator.Modifier

/-!
Reading descriptors, modifiers and parameter lists from a document.
-/

set_option autoImplicit false

namespace SmaliNavigator

open Text

def Element.reader : Reader Element := .of fun c =>
  match c.rest with
  | [] => (.error ⟨.point c.position,.missingType⟩,c)
  | code :: _ =>
    match Primitive.ofCode? code with
    | some p => (.ok (.primitive p (c.spanTo (c.advance 1))),c.advance 1)
    | none =>
      if code = 'L' then
        let n := c.run (fun x => x != ';' && !isSpace x)
        let after := c.advance (n + 1)
        if (c.rest.drop n).head? = some ';' then
          match ClassName.ofIdentifier? (c.rest.take (n + 1)) (c.spanTo after) with
          | some name => (.ok (.object name),after)
          | none =>
            let raw := String.ofList (c.rest.take (n + 1))
            (.error ⟨c.spanTo after,.emptyClassName raw⟩,after)
        else (.error ⟨c.spanTo (c.advance n),.openClassName⟩,c)
      else (.error ⟨c.spanTo (c.advance 1),.unknownType code⟩,c)

def Descriptor.reader : Reader Descriptor := .of fun c =>
  let c := c.skipSpace
  let dimensions := c.run (· = '[')
  match Element.reader.read (c.advance dimensions) with
  | (.ok e,after) =>
    (.ok (if dimensions = 0 then .single e else .array e dimensions (c.spanTo after)),after)
  | (.error d,after) => (.error d,after)

def Modifier.readUpTo : (fuel : Nat) → Cursor → List Modifier × Cursor
  | 0, c => ([],c)
  | fuel + 1, c =>
    match c.readToken with
    | (t,after) =>
      match Modifier.ofKeyword? t.text with
      | some m =>
        let (ms,last) := readUpTo fuel after
        (m :: ms,last)
      | none => ([],c)

/-- Reads all modifiers that come next. Each takes up a character of the text at least. -/
def Modifier.readAll (c : Cursor) : List Modifier × Cursor :=
  readUpTo c.rest.length c

def Descriptor.readParametersUpTo :
    (fuel : Nat) → Cursor → Except Diagnostic (List Descriptor) × Cursor
  | 0, c => (.error ⟨.point c.position,.openParameters⟩,c)
  | fuel + 1, c =>
    let c := c.skipInlineSpace
    match c.rest with
    | [] => (.error ⟨.point c.position,.openParameters⟩,c)
    | x :: _ =>
      if x = ')' then (.ok [],c.advance 1)
      else if x = '\n' ∨ x = '\r' then (.error ⟨.point c.position,.openParameters⟩,c)
      else match Descriptor.reader.read c with
        | (.error d,after) => (.error d,after)
        | (.ok t,after) =>
          match readParametersUpTo fuel after with
          | (.ok ts,last) => (.ok (t :: ts),last)
          | (.error d,last) => (.error d,last)

/-- Reads the types of a parameter list and moves behind the parenthesis that closes it. Each type
takes up a character of the text at least, and the parenthesis another. -/
def Descriptor.parametersReader : Reader (List Descriptor) := .of fun c =>
  readParametersUpTo (c.rest.length + 1) c

end SmaliNavigator
