import SmaliNavigator.Path
import SmaliNavigator.Text.Position

/-!
Places in the files of a project.
-/

set_option autoImplicit false

namespace SmaliNavigator

structure Location where
  file : Path
  span : Span
  deriving DecidableEq, Repr

namespace Location

def same (a b : Location) : Bool :=
  a.file.same b.file && a.span == b.span

def le (a b : Location) : Bool :=
  match compare a.file.key b.file.key with
  | .lt => true
  | .gt => false
  | .eq => a.span.le b.span

end Location

/-- A list with only the first of neighbours that are the same. -/
def dropRepeats {α : Type} (same : α → α → Bool) : List α → List α
  | [] => []
  | [a] => [a]
  | a :: b :: rest =>
    if same a b then dropRepeats same (a :: rest) else a :: dropRepeats same (b :: rest)

namespace Location

def arrange (ls : List Location) : List Location :=
  dropRepeats same (ls.mergeSort le)

end Location

end SmaliNavigator
