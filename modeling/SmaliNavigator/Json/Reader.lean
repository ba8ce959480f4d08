import SmaliNavigator.Json
import SmaliNavigator.Text.CodePoints

/-!
Reading JSON. A reader takes a text and gives a value with what is left behind it.
-/

set_option autoImplicit false

namespace SmaliNavigator.Json

def isBlank (c : Char) : Bool :=
  c == ' ' || c == '\t' || c == '\n' || c == '\r'

def skipBlanks (cs : List Char) : List Char := cs.dropWhile isBlank

/-- The characters of a string; nothing where it has half of a surrogate pair. -/
abbrev Spelled : Type := Option (List Char)

/-- A UTF-16 unit in front of the rest of a string; `high?` is a high surrogate that waits for its
low one. -/
def addUnit (unit : Nat) (later : Spelled) : Spelled :=
  match Text.charOf? unit with
  | some c => later.map (c :: ·)
  | none => none

def unit? (a b c d : Char) : Option Nat :=
  Text.hexValue? [a, b, c, d]

def isHigh (unit : Nat) : Bool := 0xD800 ≤ unit && unit < 0xDC00
def isLow (unit : Nat) : Bool := 0xDC00 ≤ unit && unit < 0xE000

def pair (high low : Nat) : Nat :=
  0x10000 + (high - 0xD800) * 0x400 + (low - 0xDC00)

def shortEscape? : Char → Option Char
  | '"' => some '"'
  | '\\' => some '\\'
  | '/' => some '/'
  | 'b' => some '\x08'
  | 'f' => some '\x0c'
  | 'n' => some '\n'
  | 'r' => some '\r'
  | 't' => some '\t'
  | _ => none

def readString : (fuel : Nat) → List Char → Option (Spelled × List Char)
  | 0, _ => none
  | _, [] => none
  | fuel + 1, c :: rest =>
    if c = '"' then some (some [],rest)
    else if c = '\\' then
      match rest with
      | 'u' :: a :: b :: x :: d :: rest => do
        let unit ← unit? a b x d
        if isHigh unit then
          match rest with
          | '\\' :: 'u' :: e :: f :: g :: h :: after =>
            match (unit? e f g h).filter isLow with
            | some low =>
              let (later,last) ← readString fuel after
              return (addUnit (pair unit low) later,last)
            | none =>
              let (_,last) ← readString fuel rest
              return (none,last)
          | _ =>
            let (_,last) ← readString fuel rest
            return (none,last)
        else
          let (later,last) ← readString fuel rest
          return (addUnit unit later,last)
      | e :: rest => do
        let x ← shortEscape? e
        let (later,last) ← readString fuel rest
        return (later.map (x :: ·),last)
      | [] => none
    else if c.toNat < 0x20 then none
    else do
      let (later,last) ← readString fuel rest
      return (later.map (c :: ·),last)

def digits? (cs : List Char) : Option (List Char × List Char) :=
  let ds := cs.takeWhile Char.isDigit
  if ds.isEmpty then none else some (ds,cs.drop ds.length)

def readExponent? (cs : List Char) : Option (Int × List Char) :=
  let valueOf : List Char → Nat := List.foldl (fun n c => 10 * n + Number.digit c) 0
  match cs with
  | '-' :: more => (digits? more).map fun (ds,last) => (-(valueOf ds : Int),last)
  | '+' :: more => (digits? more).map fun (ds,last) => (valueOf ds,last)
  | more => (digits? more).map fun (ds,last) => (valueOf ds,last)

def readNumber (negative : Bool) (cs : List Char) : Option (Json × List Char) := do
  let (before,rest) ← digits? cs
  if before.length > 1 ∧ before.head? = some '0' then none
  else
    let (behind?,rest) ← match rest with
      | '.' :: more => (digits? more).map fun (ds,last) => (some ds,last)
      | _ => some (none,rest)
    let (exponent?,rest) ← match rest with
      | 'e' :: more | 'E' :: more => (readExponent? more).map fun (n,last) => (some n,last)
      | _ => some (none,rest)
    return (.number (.ofDigits negative before behind? exponent?),rest)

def word? (w : String) (cs : List Char) : Option (List Char) :=
  if w.toList.isPrefixOf cs then some (cs.drop w.toList.length) else none

def ofSpelled : Spelled → Json
  | some cs => .str (String.ofList cs)
  | none => .halfPair

mutual

/-- Reads a value; `fuel` bounds the tokens of the text. In the outermost object every name has to
be a text. Further inside, a member whose name is none is left out. -/
def readValue (isInside : Bool) : (fuel : Nat) → List Char → Option (Json × List Char)
  | 0, _ => none
  | fuel + 1, cs =>
    match skipBlanks cs with
    | [] => none
    | c :: rest =>
      if c = '"' then
        (readString (rest.length + 1) rest).map fun (s,last) => (ofSpelled s,last)
      else if c = '[' then
        match skipBlanks rest with
        | ']' :: last => some (.arr [],last)
        | inner => (readItems fuel inner).map fun (xs,last) => (.arr xs,last)
      else if c = '\x7b' then
        match skipBlanks rest with
        | '\x7d' :: last => some (.obj [],last)
        | inner => (readMembers isInside fuel inner).map fun (ms,last) => (.obj ms,last)
      else if c = '-' then readNumber true rest
      else if c.isDigit then readNumber false (c :: rest)
      else
        ((word? "null" (c :: rest)).map fun last => (.null,last)).or <|
        ((word? "true" (c :: rest)).map fun last => (.bool true,last)).or <|
        (word? "false" (c :: rest)).map fun last => (.bool false,last)

def readItems : (fuel : Nat) → List Char → Option (List Json × List Char)
  | 0, _ => none
  | fuel + 1, cs => do
    let (x,rest) ← readValue true fuel cs
    match skipBlanks rest with
    | ']' :: last => return ([x],last)
    | ',' :: more =>
      let (xs,last) ← readItems fuel more
      return (x :: xs,last)
    | _ => none

def readMembers (isInside : Bool) : (fuel : Nat) → List Char →
    Option (List (String × Json) × List Char)
  | 0, _ => none
  | fuel + 1, cs =>
    match skipBlanks cs with
    | '"' :: rest => do
      let (spelled,rest) ← readString (rest.length + 1) rest
      if spelled.isNone && !isInside then none
      else match skipBlanks rest with
      | ':' :: rest =>
        let (v,rest) ← readValue true fuel rest
        let member := spelled.toList.map fun name => (String.ofList name,v)
        match skipBlanks rest with
        | '\x7d' :: last => return (member,last)
        | ',' :: more =>
          let (ms,last) ← readMembers isInside fuel more
          return (member ++ ms,last)
        | _ => none
      | _ => none
    | _ => none

end

def ofString? (s : String) : Option Json :=
  let cs := s.toList
  match readValue false (2 * cs.length + 2) cs with
  | some (j,rest) => if (skipBlanks rest).isEmpty then some j else none
  | none => none

end SmaliNavigator.Json
