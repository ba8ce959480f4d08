import SmaliNavigator.StringLiteral.Writer

/-!
What a written literal is read as. Each escape is read on its own, and an escape for half of a
character makes none and stays as it is written. So a text comes back exactly if it has no character
beyond the basic plane.
-/

set_option autoImplicit false

namespace SmaliNavigator.StringLiteral

open Text

/-! ### Escapes by code -/

theorem unit?_fourDigits {n : Nat} (h : n < 0x10000) : unit? (fourDigits n) = some n := by
  have hvalue := hexValue?_fourDigits h
  unfold unit?
  split
  · next cs hsign =>
    have hdigit : hexDigit? (upperHexDigit (n / 4096 % 16)) = some (n / 4096 % 16) :=
      hexDigit?_upperHexDigit (Nat.mod_lt _ (by decide))
    rw [(List.cons.inj hsign).1] at hdigit
    cases hdigit
  · exact hvalue

theorem charOf?_toNat (c : Char) : charOf? c.toNat = some c := by
  have hvalid : c.toNat.isValidChar := c.valid
  rw [charOf?, if_pos hvalid, Char.ofNat_toNat]

theorem charOf?_eq_none {n : Nat} (hlow : 0xD800 ≤ n) (hhigh : n < 0xE000) : charOf? n = none := by
  rw [charOf?, if_neg]
  simp only [Nat.isValidChar]
  omega

theorem decodeInner_encodeUnit (n : Nat) (rest : List Char) :
    decodeInner (encodeUnit n ++ rest) = decodeUnit (fourDigits n) ++ decodeInner rest := rfl

theorem decodeUnit_of_lt {c : Char} (h : c.toNat < 0x10000) :
    decodeUnit (fourDigits c.toNat) = [c] := by
  simp only [decodeUnit, unit?_fourDigits h, Option.bind_some, charOf?_toNat]

theorem decodeUnit_surrogate {n : Nat} (hlow : 0xD800 ≤ n) (hhigh : n < 0xE000) :
    decodeUnit (fourDigits n) = encodeUnit n := by
  have hunit : unit? (fourDigits n) = some n := unit?_fourDigits (by omega)
  simp only [decodeUnit, hunit, Option.bind_some, charOf?_eq_none hlow hhigh, encodeUnit]

/-! ### Characters -/

/-- What a character is read as where it is written in a literal. -/
def readBack (c : Char) : List Char :=
  if c.toNat < 0x10000 then [c] else (unitsOf c).flatMap encodeUnit

theorem decodeInner_of_ne {c : Char} (h : c ≠ '\\') (rest : List Char) :
    decodeInner (c :: rest) = c :: decodeInner rest := by
  rw [decodeInner.eq_def]
  split <;> simp_all

theorem decodeInner_units (c : Char) (rest : List Char) :
    decodeInner ((unitsOf c).flatMap encodeUnit ++ rest) = readBack c ++ decodeInner rest := by
  unfold readBack unitsOf
  split
  · next hbasic =>
    rw [List.flatMap_singleton, decodeInner_encodeUnit, decodeUnit_of_lt hbasic]
  · next hbeyond =>
    have hlast : c.toNat < 0x110000 := by
      have hvalid : c.toNat.isValidChar := c.valid
      simp only [Nat.isValidChar] at hvalid
      omega
    simp only [List.flatMap_cons, List.flatMap_nil, List.append_nil, List.append_assoc,
      decodeInner_encodeUnit]
    rw [decodeUnit_surrogate (by omega) (by omega), decodeUnit_surrogate (by omega) (by omega)]

theorem decodeInner_encodeChar (c : Char) (rest : List Char) :
    decodeInner (encodeChar c ++ rest) = readBack c ++ decodeInner rest := by
  unfold encodeChar
  -- the escapes of one letter are looked up, and what stands for itself is no backslash
  iterate 7
    split
    · next hc =>
      subst hc
      rfl
  split
  · next hprintable =>
    have hbasic : c.toNat < 0x10000 := by
      simp only [isPrintable, Bool.and_eq_true, decide_eq_true_eq, Char.le_def] at hprintable
      have hle : c.toNat ≤ '~'.toNat := hprintable.2
      have htilde : '~'.toNat = 126 := rfl
      omega
    simp only [readBack, if_pos hbasic, List.singleton_append]
    exact decodeInner_of_ne (by assumption) rest
  · exact decodeInner_units c rest

theorem decodeInner_flatMap (cs : List Char) :
    decodeInner (cs.flatMap encodeChar) = cs.flatMap readBack := by
  induction cs with
  | nil => rfl
  | cons c cs ih => rw [List.flatMap_cons, List.flatMap_cons, decodeInner_encodeChar, ih]

/-! ### Texts -/

theorem inner_quoted (cs : List Char) : inner ('"' :: (cs ++ ['"'])) = cs := by
  simp [inner]

theorem decode_encode_eq (s : String) :
    decode (encode s) = String.ofList (s.toList.flatMap readBack) := by
  rw [decode, encode, String.toList_ofList, inner_quoted, decodeInner_flatMap]

theorem length_le_readBack (cs : List Char) : cs.length ≤ (cs.flatMap readBack).length := by
  induction cs with
  | nil => simp
  | cons c cs ih =>
    have hone : 0 < (readBack c).length := by
      unfold readBack unitsOf
      split <;> simp [encodeUnit]
    rw [List.flatMap_cons, List.length_append, List.length_cons]
    omega

theorem flatMap_readBack_eq_iff (cs : List Char) :
    cs.flatMap readBack = cs ↔ ∀ c ∈ cs, c.toNat < 0x10000 := by
  induction cs with
  | nil => simp
  | cons c cs ih =>
    rw [List.flatMap_cons, List.forall_mem_cons, ← ih]
    by_cases hbasic : c.toNat < 0x10000
    · simp [readBack, hbasic]
    · refine iff_of_false (fun heq => ?_) fun h => hbasic h.1
      have hlength := congrArg List.length heq
      have hescapes : (readBack c).length = 12 := by
        simp [readBack, unitsOf, hbasic, encodeUnit, fourDigits]
      have hrest := length_le_readBack cs
      rw [List.length_append, List.length_cons] at hlength
      omega

/-- A text is read back from its literal exactly if each of its characters has one UTF-16 unit. -/
theorem decode_encode_iff (s : String) :
    decode (encode s) = s ↔ ∀ c ∈ s.toList, unitSize c = 1 := by
  have hsize (c : Char) : unitSize c = 1 ↔ c.toNat < 0x10000 := by
    unfold unitSize
    split <;> simp_all
  have htext : decode (encode s) = s ↔ s.toList.flatMap readBack = s.toList := by
    rw [decode_encode_eq, ← String.toList_inj, String.toList_ofList]
  simp only [htext, flatMap_readBack_eq_iff, hsize]

/-- A character of two units comes back as its two escapes. -/
theorem not_decode_encode_pair :
    encode "a😀" = "\"a\\uD83D\\uDE00\"" ∧ decode (encode "a😀") = "a\\uD83D\\uDE00" ∧
      decode (encode "a😀") ≠ "a😀" := by
  decide +kernel

end SmaliNavigator.StringLiteral
