import SmaliNavigator.Text.CodePoints

/-!
Letters that are written as one with those before them. A text is looked at from its end, so that
the later letter is met first and waits for the earlier one.
-/

set_option autoImplicit false

namespace SmaliNavigator.Text

/-- The later letter, or letters, of a pair that is written as one. -/
inductive Ligature where
  | alef
  | lamed
  | khmerLetter
  | ya
  /-- A vowel sign with a `ya` that is joined to it. -/
  | vowelYa
  | tifinagh
  /-- A Tifinagh letter with the consonant joiner in front. -/
  | joinedTifinagh
  | lisuTone
  | orkhonVowel
  deriving DecidableEq, Repr

namespace Ligature

def alefRanges : List (Nat × Nat) :=
  [(0x622,0x623), (0x625,0x625), (0x627,0x627), (0x671,0x673), (0x675,0x675), (0x773,0x774),
    (0x870,0x882)]

def khmerRanges : List (Nat × Nat) :=
  [(0x1780,0x1782), (0x1784,0x1787), (0x1789,0x178C), (0x178E,0x1793), (0x1795,0x1798),
    (0x179B,0x179D), (0x17A0,0x17A0), (0x17A2,0x17A2), (0x17A7,0x17A7), (0x17AB,0x17AC),
    (0x17AF,0x17AF)]

def lamRanges : List (Nat × Nat) :=
  [(0x644,0x644), (0x6B5,0x6B8), (0x76A,0x76A), (0x8A6,0x8A6), (0x8C7,0x8C7)]

def tifinaghRanges : List (Nat × Nat) := [(0x2D31,0x2D65), (0x2D6F,0x2D6F)]

def ofChar? (c : Char) : Option Ligature :=
  if inRanges alefRanges c then some alef
  else if c = '\u05dc' then some lamed
  else if inRanges khmerRanges c then some khmerLetter
  else if c = '\u1a10' then some ya
  else if inRanges tifinaghRanges c then some tifinagh
  else if inRanges [(0xA4FC,0xA4FD)] c then some lisuTone
  else if c.toNat = 0x10C03 then some orkhonVowel
  else none

/-- The columns that a character adds in front of a ligature that it belongs to, and the ligature
that then goes on. `joined` says that a joiner stands between. -/
def extend? (l : Ligature) (joined : Bool) (c : Char) : Option (Int × Option Ligature) :=
  match l with
  | alef => if inRanges lamRanges c then some (0,none) else none
  | lamed => if joined && c == '\u05d0' then some (0,none) else none
  | khmerLetter => if c = '\u17d2' then some (-1,none) else none
  | ya => if joined && c == '\u1a17' then some (0,some vowelYa) else none
  | vowelYa => if c = '\u1a15' then some (0,none) else none
  | tifinagh =>
    if c = '\u2d7f' then some (1,some joinedTifinagh)
    else if joined && inRanges tifinaghRanges c then some (0,none)
    else none
  | joinedTifinagh => if inRanges tifinaghRanges c then some (-1,none) else none
  | lisuTone => if inRanges [(0xA4F8,0xA4FB)] c then some (0,none) else none
  | orkhonVowel => if joined && c.toNat == 0x10C32 then some (0,none) else none

end Ligature

end SmaliNavigator.Text
