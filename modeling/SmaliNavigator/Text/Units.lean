import SmaliNavigator.Text.Document

/-!
Columns in UTF-16 units, as editors count them, against columns in bytes. A column inside of a
character goes to the end of it.
-/

set_option autoImplicit false

namespace SmaliNavigator.Text

def unitSize (c : Char) : Nat :=
  if c.toNat < 0x10000 then 1 else 2

/-- The UTF-16 units of a character. Beyond the basic plane the first one holds the upper ten bits
of what is left of the code point, and the second one the lower ten. -/
def unitsOf (c : Char) : List Nat :=
  if c.toNat < 0x10000 then [c.toNat]
  else [0xD800 + (c.toNat - 0x10000) / 0x400, 0xDC00 + (c.toNat - 0x10000) % 0x400]

def unitCount : List Char → Nat
  | [] => 0
  | c :: cs => unitSize c + unitCount cs

/-- The bytes of the characters that start before unit `n`. -/
def bytesBeforeUnit : Nat → List Char → Nat
  | 0, _ => 0
  | _, [] => 0
  | n + 1, c :: cs => c.utf8Size + bytesBeforeUnit (n + 1 - unitSize c) cs

def unitsBeforeByte : Nat → List Char → Nat
  | 0, _ => 0
  | _, [] => 0
  | n + 1, c :: cs => unitSize c + unitsBeforeByte (n + 1 - c.utf8Size) cs

end SmaliNavigator.Text

namespace SmaliNavigator.Document

open Text

def byteCol (d : Document) (line unitCol : Nat) : Nat :=
  bytesBeforeUnit unitCol (d.lineText line)

def unitCol (d : Document) (line byteCol : Nat) : Nat :=
  unitsBeforeByte byteCol (d.lineText line)

end SmaliNavigator.Document
