import SmaliNavigator.Proofs.Navigation.Correspondence
import SmaliNavigator.Proofs.Query.Agreement

/-!
When a symbol has the same places and the same new names over two indexes. All of it is put together
from questions about classes, from searches, and from the text that an editor shows.
-/

set_option autoImplicit false

namespace SmaliNavigator.Query

variable {R : Index → Index → Prop} {s : Surroundings} (k : Kept R s)
  (texts : ∀ file, Agree R s (sourceOf? file) (sourceOf? file))
  (shown : ∀ file, Agree R s (document? file) (document? file))

include k texts shown

theorem Kept.references (file : Path) (p : Position) (withDeclarations : Bool) :
    Agree R s (references file p withDeclarations) (references file p withDeclarations) := by
  have h := k.upTo.references interchangeable_eq (fun f => agree_iff.mp (texts f))
    (fun f => agree_iff.mp (shown f)) file p withDeclarations
  exact h.agree (eq_of_forall₂ Location.eq_of_like)

theorem Kept.rename (file : Path) (p : Position) (new : String) :
    Agree R s (rename file p new) (rename file p new) := by
  have h := k.upTo.rename interchangeable_eq (fun f => agree_iff.mp (texts f))
    (fun f => agree_iff.mp (shown f)) file p new
  refine h.agree fun x y hxy => ?_
  cases hxy with
  | error e => rfl
  | @ok r q hlike =>
    obtain ⟨edits,moves⟩ := r
    obtain ⟨edits',moves'⟩ := q
    obtain rfl : edits = edits' := PathMap.eq_of_like hlike.edits
    obtain rfl : moves = moves' := eq_of_forall₂ (fun _ _ hxy => Prod.ext hxy.1 hxy.2) _ _ hlike.moves
    rfl

end SmaliNavigator.Query
