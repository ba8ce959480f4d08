import SmaliNavigator.Decimal

/-!
Numbers as JSON writes them. An integer of 64 bits is exact, and every other number is a float. A
float has the fewest digits that read back and always a point or an exponent, by which it is known.
-/

set_option autoImplicit false

namespace SmaliNavigator.Json

inductive Number where
  | whole (n : Int)
  | float (x : Float)
  deriving Repr, Inhabited

namespace Number

def wholeBound : Nat := 0x10000000000000000

def lowestSize : Nat := 0x8000000000000000

def digitsOf (n : Nat) : List Char := Nat.toDigits 10 n

def zeros (n : Nat) : List Char := List.replicate n '0'

/-- The digits with the point behind the first `whole` of them. Only numbers below `10 ^ 16` and
from `0.00001` on are written out; others are between one and ten times a power of ten. -/
def place (digits : List Char) (whole : Int) : List Char :=
  if 0 < whole ∧ whole ≤ 16 then
    let n := whole.toNat
    if digits.length ≤ n then digits ++ zeros (n - digits.length) ++ ['.', '0']
    else digits.take n ++ '.' :: digits.drop n
  else if -5 < whole ∧ whole ≤ 0 then '0' :: '.' :: (zeros (-whole).toNat ++ digits)
  else
    let power := whole - 1
    let sign := if power < 0 then '-' else '+'
    let fraction := if digits.length ≤ 1 then [] else '.' :: digits.drop 1
    digits.take 1 ++ fraction ++ 'e' :: sign :: digitsOf power.natAbs

def isNegative (x : Float) : Bool := x.toBits.toNat ≥ lowestSize

def renderFloat (x : Float) : String :=
  if !x.isFinite then "null"
  else
    let size := match Decimal.shortest? x with
      | none => ['0', '.', '0']
      | some d =>
        let digits := digitsOf d.coefficient
        place digits (digits.length + d.exponent)
    String.ofList (if isNegative x then '-' :: size else size)

def render : Number → String
  | whole n => toString n
  | float x => renderFloat x

/-! Reading. -/

def digit (c : Char) : Nat := c.toNat - '0'.toNat

/-- Appends digits to a number as long as it stays below the bound. Gives the number and how many
digits are left. -/
def append (n : Nat) : List Char → Nat × Nat
  | [] => (n,0)
  | c :: cs =>
    let more := 10 * n + digit c
    if more < wholeBound then append more cs else (n,cs.length + 1)

def power (n : Nat) : Float := Float.ofScientific 1 false n

def highestPower : Nat := 308

def divide (x : Float) (n : Nat) : Float :=
  if n ≤ highestPower then x / power n
  else if x == 0 then x
  else divide (x / power highestPower) (n - highestPower)
termination_by n
decreasing_by simp_all [highestPower]; omega

/-- The float `n * 10 ^ exponent`, rounded once for the number and once for the product. Beyond the
floats it is infinite. -/
def scale (n : Nat) (exponent : Int) : Float :=
  let x := Float.ofNat n
  if exponent < 0 then divide x exponent.natAbs
  else if x == 0 then x
  else x * power exponent.toNat

/-- The number with the given digits before and behind the point and the given exponent, where they
are written. The digits that do not fit into 64 bits count as zeros. -/
def ofDigits (negative : Bool) (before : List Char) (behind? : Option (List Char))
    (exponent? : Option Int) : Number :=
  let (n,left) := append 0 before
  let signed := fun x : Float => if negative then -x else x
  match behind?, exponent? with
  | none, none =>
    if left > 0 then float (signed (scale n left))
    else if !negative then whole n
    else if n = 0 || n > lowestSize then float (signed (Float.ofNat n))
    else whole (-n)
  | _, _ =>
    let (n,dropped) := append n (behind?.getD [])
    let behind := (behind?.getD []).length - dropped
    float (signed (scale n ((left : Int) - behind + exponent?.getD 0)))

end Number

end SmaliNavigator.Json
