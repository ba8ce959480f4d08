/-!
Looking for one text in another.
-/

set_option autoImplicit false

namespace SmaliNavigator.Text

def replaceChar (old new : Char) (cs : List Char) : List Char :=
  cs.map (fun c => if c = old then new else c)

/-- The parts of a text between the characters of a kind, or of a list between items; always one
more than there are such items. -/
def splitWhere {α : Type} (p : α → Bool) : List α → List (List α)
  | [] => [[]]
  | c :: cs =>
    if p c then [] :: splitWhere p cs
    else match splitWhere p cs with
      | [] => [[c]]
      | part :: parts => (c :: part) :: parts

/-- What follows the last `c` of a text, the whole text when it has none. -/
def afterLast (c : Char) (cs : List Char) : List Char :=
  (cs.reverse.takeWhile (· ≠ c)).reverse

def occursIn (needle : List Char) : List Char → Bool
  | [] => needle.isEmpty
  | c :: cs => needle.isPrefixOf (c :: cs) || occursIn needle cs

def splitAtFirst? (needle : List Char) : List Char → Option (List Char × List Char)
  | [] => if needle.isEmpty then some ([],[]) else none
  | c :: cs =>
    if needle.isPrefixOf (c :: cs) then some ([],(c :: cs).drop needle.length)
    else (splitAtFirst? needle cs).map fun (before,after) => (c :: before,after)

def joinWith (separator : String) : List String → String
  | [] => ""
  | [s] => s
  | s :: t :: ss => s ++ separator ++ joinWith separator (t :: ss)

end SmaliNavigator.Text
