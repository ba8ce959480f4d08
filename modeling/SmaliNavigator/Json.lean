import SmaliNavigator.Json.Number
import SmaliNavigator.Text.Hex
import SmaliNavigator.Text.Search

/-!
JSON values and their texts.
-/

set_option autoImplicit false

namespace SmaliNavigator

/-- A JSON value. Members of an object stay in the order of the text. -/
inductive Json where
  | null
  | bool (b : Bool)
  | number (n : Json.Number)
  | str (s : String)
  /-- A string with one half of a surrogate pair, which stands for no text. -/
  | halfPair
  | arr (items : List Json)
  | obj (members : List (String × Json))
  deriving Repr, Inhabited

namespace Json

@[match_pattern] def int (n : Int) : Json := number (.whole n)

def ofNat (n : Nat) : Json := int n

def get? (j : Json) (name : String) : Option Json :=
  match j with
  | obj ms => (ms.find? (·.1 == name)).map (·.2)
  | _ => none

def str? : Json → Option String
  | str s => some s
  | _ => none

def bool? : Json → Option Bool
  | bool b => some b
  | _ => none

def natBelow? (bound : Nat) : Json → Option Nat
  | int (.ofNat n) => if n < bound then some n else none
  | _ => none

def arr? : Json → Option (List Json)
  | arr xs => some xs
  | _ => none

def escapeChar (c : Char) : List Char :=
  if c = '"' then ['\\', '"']
  else if c = '\\' then ['\\', '\\']
  else if c = '\n' then ['\\', 'n']
  else if c = '\r' then ['\\', 'r']
  else if c = '\t' then ['\\', 't']
  else if c = '\x08' then ['\\', 'b']
  else if c = '\x0c' then ['\\', 'f']
  else if c.toNat < 0x20 then
    ['\\', 'u', '0', '0', Text.hexDigit (c.toNat / 16), Text.hexDigit (c.toNat % 16)]
  else [c]

def quote (s : String) : String :=
  "\"" ++ String.ofList (s.toList.flatMap escapeChar) ++ "\""

mutual

def render : Json → String
  | null => "null"
  | bool b => if b then "true" else "false"
  | number n => n.render
  | str s => quote s
  | halfPair => "\"\""
  | arr xs => "[" ++ Text.joinWith "," (renderItems xs) ++ "]"
  | obj ms => "\x7b" ++ Text.joinWith "," (renderMembers ms) ++ "\x7d"

def renderItems : List Json → List String
  | [] => []
  | x :: xs => render x :: renderItems xs

def renderMembers : List (String × Json) → List String
  | [] => []
  | (name,v) :: ms => (quote name ++ ":" ++ render v) :: renderMembers ms

end

def stack (opened closed : String) (depth : Nat) (items : List String) : String :=
  let indent := fun n => String.ofList (List.replicate (2 * n) ' ')
  if items.isEmpty then opened ++ closed
  else opened ++ "\n" ++ Text.joinWith ",\n" (items.map (indent (depth + 1) ++ ·)) ++ "\n" ++
    indent depth ++ closed

mutual

def pretty (depth : Nat) : Json → String
  | arr xs => stack "[" "]" depth (prettyItems (depth + 1) xs)
  | obj ms => stack "\x7b" "\x7d" depth (prettyMembers (depth + 1) ms)
  | null => "null"
  | bool b => if b then "true" else "false"
  | number n => n.render
  | str s => quote s
  | halfPair => "\"\""

def prettyItems (depth : Nat) : List Json → List String
  | [] => []
  | x :: xs => pretty depth x :: prettyItems depth xs

def prettyMembers (depth : Nat) : List (String × Json) → List String
  | [] => []
  | (name,v) :: ms => (quote name ++ ": " ++ pretty depth v) :: prettyMembers depth ms

end

/-! The order of members. -/

def insert (name : String) (v : Json) : List (String × Json) → List (String × Json)
  | [] => [(name,v)]
  | m :: ms =>
    if name < m.1 then (name,v) :: m :: ms
    else if name = m.1 then (name,v) :: ms
    else m :: insert name v ms

/-- Members in the order of their names. Of members with one name the last counts. -/
def inOrder (members : List (String × Json)) : List (String × Json) :=
  members.foldl (fun sorted m => insert m.1 m.2 sorted) []

mutual

def sorted : Json → Json
  | arr xs => arr (sortedItems xs)
  | obj ms => obj (inOrder (sortedMembers ms))
  | j => j

def sortedItems : List Json → List Json
  | [] => []
  | x :: xs => sorted x :: sortedItems xs

def sortedMembers : List (String × Json) → List (String × Json)
  | [] => []
  | (name,v) :: ms => (name,sorted v) :: sortedMembers ms

end

end Json

end SmaliNavigator
