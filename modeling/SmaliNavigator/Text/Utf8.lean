/-!
The bytes of a text, and the text of bytes. Bytes that are no text read as replacement characters:
one for each longest run of bytes that a character may start with.
-/

set_option autoImplicit false

namespace SmaliNavigator.Text

def encodeUtf8 (cs : List Char) : List UInt8 :=
  cs.flatMap String.utf8EncodeChar

structure Partial where
  value : Nat
  /-- The least and the greatest byte that may follow. -/
  low : UInt8
  high : UInt8
  /-- How many bytes are missing. -/
  owed : Nat
  deriving DecidableEq, Repr

/-- What the first byte of a character says of it; nothing where no character starts like this. -/
def Partial.ofByte? (b : UInt8) : Option Partial :=
  let n := b.toNat
  if n < 0x80 then some ⟨n,0x80,0xBF,0⟩
  else if n < 0xC2 then none
  else if n < 0xE0 then some ⟨n - 0xC0,0x80,0xBF,1⟩
  else if n < 0xF0 then
    some ⟨n - 0xE0,if n = 0xE0 then 0xA0 else 0x80,if n = 0xED then 0x9F else 0xBF,2⟩
  else if n < 0xF5 then
    some ⟨n - 0xF0,if n = 0xF0 then 0x90 else 0x80,if n = 0xF4 then 0x8F else 0xBF,3⟩
  else none

def Partial.next? (p : Partial) (b : UInt8) : Option Partial :=
  if p.low ≤ b ∧ b ≤ p.high then some ⟨64 * p.value + (b.toNat - 0x80),0x80,0xBF,p.owed - 1⟩
  else none

def replacement : Char := '\ufffd'

def decodeBehind : Option Partial → List UInt8 → List Char
  | none, [] => []
  | some _, [] => [replacement]
  | p?, b :: bs =>
    let emit (p : Partial) : List Char :=
      if p.owed = 0 then Char.ofNat p.value :: decodeBehind none bs else decodeBehind (some p) bs
    match p?.bind (·.next? b) with
    | some p => emit p
    | none =>
      let lost := if p?.isSome then [replacement] else []
      match Partial.ofByte? b with
      | some p => lost ++ emit p
      | none => lost ++ replacement :: decodeBehind none bs

def decodeUtf8 (bs : List UInt8) : List Char := decodeBehind none bs

def textOf? (bs : List UInt8) : Option (List Char) :=
  let cs := decodeUtf8 bs
  if encodeUtf8 cs = bs then some cs else none

end SmaliNavigator.Text
