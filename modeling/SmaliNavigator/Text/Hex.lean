/-!
Numbers in base sixteen. Letters may be of either case where digits are read.

Main statements: `hexDigit?_hexDigit` and `hexValue?_fourDigits`, that what was written reads back.
-/

set_option autoImplicit false

namespace SmaliNavigator.Text

def hexDigit (n : Nat) : Char :=
  if n < 10 then Char.ofNat ('0'.toNat + n) else Char.ofNat ('a'.toNat + (n - 10))

def upperHexDigit (n : Nat) : Char := (hexDigit n).toUpper

def hexDigits (n : Nat) : List Char := Nat.toDigits 16 n

def hexDigit? (c : Char) : Option Nat :=
  if '0' ≤ c ∧ c ≤ '9' then some (c.toNat - '0'.toNat)
  else if 'a' ≤ c ∧ c ≤ 'f' then some (c.toNat - 'a'.toNat + 10)
  else if 'A' ≤ c ∧ c ≤ 'F' then some (c.toNat - 'A'.toNat + 10)
  else none

def hexValue? : List Char → Option Nat
  | [] => none
  | cs => cs.foldlM (fun n c => (hexDigit? c).map (16 * n + ·)) 0

def fourDigits (n : Nat) : List Char :=
  [upperHexDigit (n / 4096 % 16), upperHexDigit (n / 256 % 16), upperHexDigit (n / 16 % 16),
    upperHexDigit (n % 16)]

theorem hexDigit?_hexDigit {n : Nat} (h : n < 16) : hexDigit? (hexDigit n) = some n := by
  have all : ∀ n ∈ List.range 16, hexDigit? (hexDigit n) = some n := by decide
  exact all n (List.mem_range.mpr h)

theorem hexDigit?_upperHexDigit {n : Nat} (h : n < 16) :
    hexDigit? (upperHexDigit n) = some n := by
  have all : ∀ n ∈ List.range 16, hexDigit? (upperHexDigit n) = some n := by decide
  exact all n (List.mem_range.mpr h)

theorem hexValue?_fourDigits {n : Nat} (h : n < 0x10000) : hexValue? (fourDigits n) = some n := by
  have digit (m : Nat) : hexDigit? (upperHexDigit (m % 16)) = some (m % 16) :=
    hexDigit?_upperHexDigit (Nat.mod_lt m (by decide))
  simp only [fourDigits, hexValue?, List.foldlM_cons, List.foldlM_nil, digit, Option.map_some,
    Option.bind_eq_bind, Option.bind_some, Option.pure_def, Option.some.injEq]
  omega

end SmaliNavigator.Text
