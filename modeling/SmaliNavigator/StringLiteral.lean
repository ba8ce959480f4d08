import SmaliNavigator.Text.CodePoints
import SmaliNavigator.Text.Hex

/-!
String literals. A backslash escapes a quote, a backslash, a line feed, a tab, a carriage return, a
backspace or a form feed by one letter, and any other character by the four hexadecimal digits of
its UTF-16 units.
-/

set_option autoImplicit false

namespace SmaliNavigator.StringLiteral

open Text

/-- The number written by up to four digits; a plus sign may stand in front of them. -/
def unit? : List Char → Option Nat
  | '+' :: cs => hexValue? cs
  | cs => hexValue? cs

/-- The text that an escape by code stands for; as it is written where it makes no character. -/
def decodeUnit (digits : List Char) : List Char :=
  match (unit? digits).bind charOf? with
  | some c => [c]
  | none => '\\' :: 'u' :: digits

def decodeInner : List Char → List Char
  | [] => []
  | ['\\'] => ['\\']
  | '\\' :: 'u' :: a :: b :: c :: d :: rest => decodeUnit [a, b, c, d] ++ decodeInner rest
  | '\\' :: 'u' :: rest => decodeUnit rest
  | '\\' :: e :: rest =>
    (match e with
      | 'n' => '\n'
      | 't' => '\t'
      | 'r' => '\r'
      | 'b' => '\x08'
      | 'f' => '\x0c'
      | other => other) :: decodeInner rest
  | c :: rest => c :: decodeInner rest

/-- The inside of a literal, the whole text where a quote is missing. -/
def inner (cs : List Char) : List Char :=
  match cs with
  | '"' :: rest => if rest.getLast? = some '"' then rest.dropLast else cs
  | _ => cs

def decode (literal : String) : String :=
  String.ofList (decodeInner (inner literal.toList))

end SmaliNavigator.StringLiteral
