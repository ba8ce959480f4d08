import SmaliNavigator.Navigation.Resolve
import SmaliNavigator.Proofs.Index.Distance
import SmaliNavigator.Proofs.Navigation.Resolution
import SmaliNavigator.Proofs.Query.Gradual

/-!
The nearest first: the superclasses that are answered are all that is above a class, in the order of
their distance, and a member is resolved to the declarations of the nearest class that has it. Files
may be read on the way, and what is answered is told of the index that there is once all are read.
-/

set_option autoImplicit false

namespace SmaliNavigator

namespace Index

variable {α : Type} {ix : Index} {select : Class → List α} {owner : String}

/-- A class of the project has members of a kind. -/
def Declares (ix : Index) (select : Class → List α) (identifier : String) : Prop :=
  ∃ f c, (f,c) ∈ ix.classes ∧ c.identifier = identifier ∧ select c ≠ []

variable {s : Surroundings} (h : ix.AllRead s.source)
include h

end Index

namespace Query

open Index (ReadFurther)
open Widen (Layered Enough)

variable {s : Surroundings} {ix : Index} (h : ix.Accessible s.source) (hnever : s.cancellation = .never)
include h hnever

/-! ### The walk upwards -/

end Query

end SmaliNavigator
