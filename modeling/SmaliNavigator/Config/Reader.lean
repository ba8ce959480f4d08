import SmaliNavigator.Config
import SmaliNavigator.Failure
import SmaliNavigator.Json.Reader
import SmaliNavigator.Text.Blank

/-!
Reading settings. They are an object, and what is not in it has its default; or they are an array of
at most as many values as there are settings, in their order.
-/

set_option autoImplicit false

namespace SmaliNavigator.Config

/-- Sizes have 64 bits, and so are below this bound. -/
def sizeBound : Nat := 0x10000000000000000

def strings? (j : Json) : Option (List String) := do
  (← j.arr?).mapM Json.str?

/-- Sets one setting by name; other names say nothing. -/
def set? (c : Config) (name : String) (value : Json) : Option Config :=
  match name with
  | "include" => (strings? value).map fun s => { c with included := s }
  | "exclude" => (strings? value).map fun s => { c with excluded := s }
  | "cache_budget_bytes" => (value.natBelow? sizeBound).map fun n => { c with cacheBudget := n }
  | "preload" => value.bool?.map fun b => { c with preload := b }
  | _ => some c

def names : List String := ["include", "exclude", "cache_budget_bytes", "preload"]

def setAll? (c : Config) (settings : List (String × Json)) : Option Config :=
  settings.foldlM (fun c (name,value) => c.set? name value) c

def ofJson? : Json → Option Config
  | .obj ms =>
    let known := (ms.map (·.1)).filter names.contains
    if known.eraseDups.length = known.length then default.setAll? ms else none
  | .arr xs => if xs.length ≤ names.length then default.setAll? (names.zip xs) else none
  | _ => none

def ofString (s : String) : Except Failure Config :=
  match (Json.ofString? s).bind ofJson? with
  | some c => .ok c
  | none => .error .json

/-- The number that a text writes with digits alone, perhaps behind a plus sign. -/
def size? (s : String) : Option Nat :=
  let cs := Text.trim s.toList
  let ds := match cs with
    | '+' :: rest => rest
    | _ => cs
  if ds.isEmpty || !ds.all Char.isDigit then none
  else
    let n := ds.foldl (fun n c => 10 * n + (c.toNat - '0'.toNat)) 0
    if n < sizeBound then some n else none

def withBudget (c : Config) (budget? : Option String) : Config :=
  match budget?.bind size? with
  | some n => { c with cacheBudget := n }
  | none => c

end SmaliNavigator.Config
