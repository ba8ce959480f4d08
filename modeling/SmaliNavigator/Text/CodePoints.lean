/-!
Sets of characters given by ranges of code points.
-/

set_option autoImplicit false

namespace SmaliNavigator.Text

def isBeyondAscii (c : Char) : Bool :=
  128 ≤ c.toNat

def inRanges (ranges : List (Nat × Nat)) (c : Char) : Bool :=
  ranges.any (fun r => r.1 ≤ c.toNat && c.toNat ≤ r.2)

/-- The character of a code point, none for a surrogate or a number that is too large. -/
def charOf? (n : Nat) : Option Char :=
  if n.isValidChar then some (Char.ofNat n) else none

end SmaliNavigator.Text
