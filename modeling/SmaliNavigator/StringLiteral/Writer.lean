import SmaliNavigator.StringLiteral
import SmaliNavigator.Text.Units

/-!
Writing a text as a string literal. Printable ASCII characters stand for themselves, and whatever
else has no escape of one letter is written by its UTF-16 units.

A character beyond the basic plane takes two escapes, and no escape alone stands for half of a
character.
-/

set_option autoImplicit false

namespace SmaliNavigator.StringLiteral

open Text

def encodeUnit (n : Nat) : List Char := '\\' :: 'u' :: fourDigits n

def isPrintable (c : Char) : Bool :=
  ' ' ≤ c && c ≤ '~'

def encodeChar (c : Char) : List Char :=
  if c = '"' then ['\\', '"']
  else if c = '\\' then ['\\', '\\']
  else if c = '\n' then ['\\', 'n']
  else if c = '\t' then ['\\', 't']
  else if c = '\r' then ['\\', 'r']
  else if c = '\x08' then ['\\', 'b']
  else if c = '\x0c' then ['\\', 'f']
  else if isPrintable c then [c]
  else (unitsOf c).flatMap encodeUnit

def encode (s : String) : String :=
  String.ofList ('"' :: (s.toList.flatMap encodeChar ++ ['"']))

end SmaliNavigator.StringLiteral
