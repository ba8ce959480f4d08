import SmaliNavigator.Navigation.Resolve
import SmaliNavigator.StringLiteral

/-!
A symbol shown as source code would write it.
-/

set_option autoImplicit false

namespace SmaliNavigator

structure HoverInfo where
  contents : String
  span : Span
  deriving DecidableEq, Repr

namespace HoverInfo

def withModifiers (modifiers : List Modifier) (text : String) : String :=
  Text.joinWith " " (modifiers.map Modifier.keyword ++ [text])

def renderField (f : Field) (name : String) : String :=
  withModifiers f.modifiers (f.type.readable ++ " " ++ name) ++
    match f.initial? with
    | some t => " = " ++ t.text
    | none => ""

def asName (readable : String) : String :=
  String.ofList (readable.toList.map fun c => if c = '.' ∨ c = '[' ∨ c = ']' then '_' else c)

/-- The parameters with names made from their places and types: `int param0_int`. -/
def renderParameters (ts : List Descriptor) : String :=
  Text.joinWith ", " (ts.mapIdx fun i t =>
    t.readable ++ " param" ++ toString i ++ "_" ++ asName t.readable)

/-- A method; what only says that it is a constructor is left out. -/
def renderMethod (m : Method) (name : String) : String :=
  let signature := name ++ "(" ++ renderParameters m.parameters ++ ")"
  withModifiers (m.modifiers.filter (· ≠ .constructor)) <|
    if m.isConstructor then signature else signature ++ " : " ++ m.returnType.readable

end HoverInfo

namespace Query

open HoverInfo

/-- What is shown of a symbol. A reference is shown as its declaration where that is known. -/
def hoverText : Spot → Query String
  | .stringLiteral t => return StringLiteral.decode t.text
  | .type t => return t.readable
  | .label l => return l.name.text
  | .fieldDefinition f => return renderField f f.name.text
  | .methodDefinition m => return renderMethod m m.name.text
  | .fieldReference r => do
    let declared ← resolveField r.owner.raw r.field
    let f := (declared.head?.map (·.member)).getD r.field
    return renderField f (r.owner.readable ++ "." ++ f.name.text)
  | .methodReference r => do
    let declared ← resolveMethod r.owner.raw r.method
    let m := (declared.head?.map (·.member)).getD r.method
    let name :=
      if m.isConstructor then "new " ++ r.owner.readable
      else r.owner.readable ++ "." ++ m.name.text
    return renderMethod m name

def hover (file : Path) (p : Position) : Query (Option HoverInfo) := do
  match ← spotIn? file p with
  | none => return none
  | some s => return some ⟨← hoverText s,s.span⟩

end Query

end SmaliNavigator
