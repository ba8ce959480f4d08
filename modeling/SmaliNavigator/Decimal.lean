/-!
The shortest decimal that reads back as a float. A finite float is a number of units, which are
powers of two, and every real that is nearer to it than to its neighbours reads as it. On the
coarsest grid of powers of ten that has such a point, the nearest point is the one with the fewest
digits.
-/

set_option autoImplicit false

namespace SmaliNavigator

/-- The number `coefficient * 10 ^ exponent`. -/
structure Decimal where
  coefficient : Nat
  exponent : Int
  deriving DecidableEq, Repr

namespace Decimal

/-- The reals between two numbers of units, each unit being `2 ^ exponent`. -/
structure Interval where
  low : Nat
  value : Nat
  high : Nat
  exponent : Int
  /-- Whether the ends are in it. -/
  closed : Bool
  deriving DecidableEq, Repr

def fractionBound : Nat := 0x10000000000000

/-- The reals that read as a positive finite float, in quarters of its own unit. Below a power of
two the next float is only half as far away. Of two floats that are equally near, the even one is
read. -/
def Interval.ofBits (bits : Nat) : Interval :=
  let fraction := bits % fractionBound
  let step := bits / fractionBound % 0x800
  let (significand,exponent) : Nat × Int :=
    if step = 0 then (fraction,-1074) else (fractionBound + fraction,(step : Int) - 1075)
  let value := 4 * significand
  ⟨if fraction = 0 ∧ step > 1 then value - 1 else value - 2,value,value + 2,exponent - 2,
    significand % 2 = 0⟩

/-- The nearest point of the grid of a power of ten, if it reads back; of two equally near ones, the
even one. -/
def Interval.nearest? (i : Interval) (exponent : Int) : Option Decimal :=
  -- Units and grid are brought to the same scale, on which both are whole.
  let unit := Nat.pow 2 i.exponent.toNat * Nat.pow 10 (-exponent).toNat
  let grid := Nat.pow 10 exponent.toNat * Nat.pow 2 (-i.exponent).toNat
  let value := i.value * unit
  let below := value / grid
  let isIn := fun c : Nat =>
    let point := c * grid
    if i.closed then i.low * unit ≤ point ∧ point ≤ i.high * unit
    else i.low * unit < point ∧ point < i.high * unit
  let belowFirst :=
    let under := value - below * grid
    let above := (below + 1) * grid - value
    under < above || (under == above && below % 2 == 0)
  let points := if belowFirst then [below, below + 1] else [below + 1, below]
  (points.find? fun c => isIn c).map fun c => ⟨c,exponent⟩

def exponents : List Int := (List.range 640).map fun n : Nat => 309 - (n : Int)

/-- The shortest decimal that reads as the size of a float; nothing for zero and where there is no
finite number. -/
def shortest? (x : Float) : Option Decimal :=
  let bits := x.abs.toBits.toNat
  if bits = 0 || !x.isFinite then none
  else exponents.findSome? (Interval.ofBits bits).nearest?

end Decimal

end SmaliNavigator
