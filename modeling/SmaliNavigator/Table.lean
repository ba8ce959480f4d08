import SmaliNavigator.Text.Search
import SmaliNavigator.Text.Width

/-!
Tables drawn with `+`, `-` and `|`. Every row has a line above and below it, and every cell has a
blank on either side.
-/

set_option autoImplicit false

namespace SmaliNavigator

abbrev Cell : Type := List String

def Cell.ofString (s : String) : Cell :=
  (Text.splitWhere (· == '\n') s.toList).map String.ofList

def Cell.width (c : Cell) : Nat :=
  (c.map Text.width).foldl max 0

structure Table where
  header : List String
  rows : List (List String)
  deriving DecidableEq, Repr

namespace Table

def widen : List Nat → List Nat → List Nat
  | [], ns => ns
  | ms, [] => ms
  | m :: ms, n :: ns => max m n :: widen ms ns

def widths (rows : List (List Cell)) : List Nat :=
  (rows.map (·.map Cell.width)).foldl widen []

def blanks (n : Nat) : String := String.ofList (List.replicate n ' ')

def rule (ws : List Nat) : String :=
  "+" ++ String.join (ws.map fun w => String.ofList (List.replicate (w + 2) '-') ++ "+")

def line (ws : List Nat) (texts : List String) : String :=
  "|" ++ String.join ((ws.zip texts).map fun (w,t) =>
    " " ++ t ++ blanks (w - Text.width t) ++ " |")

/-- The lines of a row; cells with fewer lines than others end in blank ones. -/
def rowLines (ws : List Nat) (row : List Cell) : List String :=
  let height := (row.map List.length).foldl max 1
  (List.range height).map fun n => line ws (row.map fun c => c.getD n "")

def render (t : Table) : String :=
  let rows := (t.header :: t.rows).map (·.map Cell.ofString)
  let ws := widths rows
  Text.joinWith "\n" (rule ws :: rows.flatMap fun row => rowLines ws row ++ [rule ws])

end Table

end SmaliNavigator
