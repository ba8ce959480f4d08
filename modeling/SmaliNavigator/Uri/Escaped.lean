import SmaliNavigator.Text.Hex
import SmaliNavigator.Text.Utf8

/-!
Bytes in a URI. Those of a character that has a meaning of its own, or that is not printable ASCII,
are written as a percent sign with two digits.

Main statement: `decode_encode`, that what was written reads back.
-/

set_option autoImplicit false

namespace SmaliNavigator.Escaped

open Text

/-- Characters that the name of a file may have but a piece of a URI may not. -/
def isReserved (c : Char) : Bool :=
  " \"<>\x60#?\x7b\x7d/%\\".toList.contains c

def isPlain (c : Char) : Bool :=
  0x20 < c.toNat && c.toNat < 0x7F && !isReserved c

def escape (b : UInt8) : List Char :=
  ['%', upperHexDigit (b.toNat / 16), upperHexDigit (b.toNat % 16)]

def encodeByte (b : UInt8) : List Char :=
  let c := Char.ofNat b.toNat
  if isPlain c then [c] else escape b

def encode (bytes : List UInt8) : List Char := bytes.flatMap encodeByte

/-- The bytes that a piece of a URI stands for. A percent sign without two digits is itself. -/
def decode : List Char → List UInt8
  | [] => []
  | '%' :: a :: b :: cs =>
    match hexDigit? a, hexDigit? b with
    | some high, some low => UInt8.ofNat (16 * high + low) :: decode cs
    | _, _ => encodeUtf8 ['%'] ++ decode (a :: b :: cs)
  | c :: cs => encodeUtf8 [c] ++ decode cs

theorem plain_byte : ∀ n ∈ List.range 256, isPlain (Char.ofNat n) = true →
    Char.ofNat n ≠ '%' ∧ String.utf8EncodeChar (Char.ofNat n) = [UInt8.ofNat n] := by
  decide +kernel

theorem decode_cons {c : Char} (h : c ≠ '%') (cs : List Char) :
    decode (c :: cs) = encodeUtf8 [c] ++ decode cs := by
  rw [decode]
  intro _ _ _ hc
  exact absurd hc h

theorem decode_escape (b : UInt8) (cs : List Char) : decode (escape b ++ cs) = b :: decode cs := by
  have h1 : b.toNat / 16 < 16 := by have := b.toNat_lt; omega
  have h2 : b.toNat % 16 < 16 := by omega
  have h3 : 16 * (b.toNat / 16) + b.toNat % 16 = b.toNat := by omega
  simp [escape, decode, hexDigit?_upperHexDigit h1, hexDigit?_upperHexDigit h2, h3]

theorem decode_encodeByte (b : UInt8) (cs : List Char) :
    decode (encodeByte b ++ cs) = b :: decode cs := by
  unfold encodeByte
  by_cases h : isPlain (Char.ofNat b.toNat) = true
  · obtain ⟨hc,hb⟩ := plain_byte b.toNat (List.mem_range.mpr b.toNat_lt) h
    simp only [h, ↓reduceIte, List.cons_append, List.nil_append]
    rw [decode_cons hc]
    simp [encodeUtf8, hb]
  · simp only [h, Bool.false_eq_true, ↓reduceIte]
    exact decode_escape b cs

theorem decode_encode (bytes : List UInt8) : decode (encode bytes) = bytes := by
  induction bytes with
  | nil => rfl
  | cons b bytes ih =>
    have h : encode (b :: bytes) = encodeByte b ++ encode bytes := rfl
    rw [h, decode_encodeByte, ih]
end SmaliNavigator.Escaped
