import SmaliNavigator.Navigation.Resolve

/-!
Where a symbol is declared.
-/

set_option autoImplicit false

namespace SmaliNavigator.Query

def classLocations (classes : List (Path × Class)) : List Location :=
  classes.map fun (f,c) => ⟨f,c.name.span⟩

/-- Where a symbol of a file is declared; more than one place if its class is declared by more than
one file. -/
def declarationsOf (file : Path) : Spot → Query (List Location)
  | .stringLiteral _ => return []
  | .type t =>
    match t.classIdentifier? with
    | some id => return classLocations (← findClasses id)
    | none => return []
  | .fieldDefinition f => return [⟨file,f.name.span⟩]
  | .methodDefinition m => return [⟨file,m.name.span⟩]
  | .fieldReference r => do
    return (← resolveField r.owner.raw r.field).map fun d => ⟨d.file,d.member.name.span⟩
  | .methodReference r => do
    return (← resolveMethod r.owner.raw r.method).map fun d => ⟨d.file,d.member.name.span⟩
  | .label l => return l.definition?.toList.map fun s => ⟨file,s⟩

def definition (file : Path) (p : Position) : Query (List Location) := do
  match ← spotIn? file p with
  | none => return []
  | some s => return Location.arrange (← declarationsOf file s)

end SmaliNavigator.Query
