import SmaliNavigator.Domain
import SmaliNavigator.Uri.Escaped
import SmaliNavigator.Uri.Fault

/-!
The hosts that a URI names: by a domain name, or by a number that is the address of one.
-/

set_option autoImplicit false

namespace SmaliNavigator

open Text

inductive UriHost where
  | name (name : String)
  | address
  deriving DecidableEq, Repr

namespace UriHost

def here : UriHost := name "localhost"

/-! Addresses of version 4: up to four numbers with points between, the last of which fills the
bytes that are left. -/

/-- Reads a number in base ten, in base eight behind a zero, or in base sixteen behind `0x`. -/
def number? (cs : List Char) : Option Nat :=
  let inBase (base : Nat) (digits : List Char) : Option Nat :=
    digits.foldlM (fun n c => ((hexDigit? c).filter (· < base)).map (base * n + ·)) 0
  match cs with
  | [] => none
  | '0' :: 'x' :: digits | '0' :: 'X' :: digits => inBase 16 digits
  | '0' :: digit :: digits => inBase 8 (digit :: digits)
  | digits => inBase 10 digits

/-- The parts of a name between points. A point at the end does not count. -/
def parts (name : List Char) : List (List Char) :=
  let parts := splitWhere (· == '.') name
  if 1 < parts.length ∧ parts.getLast? = some [] then parts.dropLast else parts

def endsInNumber (name : List Char) : Bool :=
  (parts name).getLast?.any fun last =>
    !last.isEmpty && last.all Char.isDigit || (number? last).isSome

def isIpv4 (name : List Char) : Bool :=
  match (parts name).mapM number? with
  | none => false
  | some numbers =>
    numbers.length ≤ 4 && numbers.dropLast.all (· < 256) &&
      numbers.getLast?.any (· < Nat.pow 256 (5 - numbers.length))

/-! Addresses of version 6: eight numbers of up to four digits with colons between. Once, two colons
stand for any number of zeros, and an address of version 4 may take the place of the last two. -/

def isByte (digits : List Char) : Bool :=
  match digits with
  | [] => false
  | '0' :: _ :: _ => false
  | _ => digits.all Char.isDigit && digits.length ≤ 3 &&
    digits.foldl (fun n c => 10 * n + (c.toNat - '0'.toNat)) 0 < 256

def isLastFourBytes (cs : List Char) : Bool :=
  let bytes := splitWhere (· == '.') cs
  bytes.length == 4 && bytes.all isByte

def isGroup (digits : List Char) : Bool :=
  !digits.isEmpty && digits.length ≤ 4 && digits.all fun c => (hexDigit? c).isSome

/-- How many numbers of an address there are between colons; nothing where one is none. -/
def groupCount? (mayEndInBytes : Bool) : List (List Char) → Option Nat
  | [] => some 0
  | [last] =>
    if isGroup last then some 1
    else if mayEndInBytes && isLastFourBytes last then some 2
    else none
  | g :: gs => if isGroup g then (groupCount? mayEndInBytes gs).map (· + 1) else none

def groups (cs : List Char) : List (List Char) :=
  if cs.isEmpty then [] else splitWhere (· == ':') cs

def isIpv6 (cs : List Char) : Bool :=
  match splitAtFirst? "::".toList cs with
  | none => groupCount? true (groups cs) == some 8
  | some (before,after) =>
    match groupCount? false (groups before), groupCount? true (groups after) with
    | some m, some n => m + n < 8
    | _, _ => false

/-! Reading. -/

def ofBrackets (cs : List Char) : Except UriFault UriHost :=
  if cs.getLast? = some ']' ∧ isIpv6 cs.tail.dropLast then .ok address else .error .badIpv6

def ofDomain (cs : List Char) : Except UriFault UriHost :=
  if cs.head? = some '[' then ofBrackets cs
  else
    match (textOf? (Escaped.decode cs)).bind Domain.ofChars? with
    | none => .error .badDomain
    | some domain =>
      if domain.isEmpty then .error .emptyHost
      else if endsInNumber domain then if isIpv4 domain then .ok address else .error .badIpv4
      else .ok (name (String.ofList domain))

def isSeparator (c : Char) : Bool :=
  c.toNat == 0 || "\t\n\r #/:<>?@[\\]^|".toList.contains c

def ofText (cs : List Char) : Except UriFault UriHost :=
  if cs.head? = some '[' then ofBrackets cs
  else if cs.any isSeparator then .error .badHostCharacter
  else .ok (name (String.ofList cs))

end UriHost

end SmaliNavigator
