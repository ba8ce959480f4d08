import SmaliNavigator.Text.CodePoints

/-!
White space of all scripts, and the trimming of a text by it.
-/

set_option autoImplicit false

namespace SmaliNavigator.Text

def blankRanges : List (Nat × Nat) :=
  [(0x9,0xD), (0x20,0x20), (0x85,0x85), (0xA0,0xA0), (0x1680,0x1680), (0x2000,0x200A),
    (0x2028,0x2029), (0x202F,0x202F), (0x205F,0x205F), (0x3000,0x3000)]

def isBlank (c : Char) : Bool :=
  inRanges blankRanges c

def dropEndWhile (p : Char → Bool) (cs : List Char) : List Char :=
  (cs.reverse.dropWhile p).reverse

def trimStart (cs : List Char) : List Char :=
  cs.dropWhile isBlank

def trimEnd (cs : List Char) : List Char :=
  dropEndWhile isBlank cs

def trim (cs : List Char) : List Char :=
  trimEnd (trimStart cs)

/-- The characters of the first word of a text, none when the text is blank. -/
def firstWord (cs : List Char) : List Char :=
  (trimStart cs).takeWhile (fun c => !isBlank c)

end SmaliNavigator.Text
