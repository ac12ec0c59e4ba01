/-!
# The shortest decimal of a floating-point number

The numbers of double precision stand apart, so every one of them is the nearest to an interval of
reals.  `shortest x` is the decimal in that interval with the fewest digits, and of two such
decimals the one nearer to the number; a tie goes to the even one.

All is computed on natural numbers.  The decimals with a given number of digits form a grid, and
if any point of the grid lies in the interval, then one of the two points around the number does.
-/

namespace DeskView.Text

/-- A positive number of double precision, `mantissa · 2 ^ exponent`. -/
structure Binary where
  mantissa : Nat
  exponent : Int
  /-- Whether the next smaller number is half as far away as the next larger one. -/
  narrowBelow : Bool
deriving Repr, DecidableEq

/-- The number `digits · 10 ^ power`. -/
structure Scaled where
  digits : Nat
  power : Int
deriving Repr, DecidableEq

namespace Binary

/-- The number with these bits, its sign left out. -/
def ofBits (bits : UInt64) : Binary :=
  let e := ((bits >>> 52) &&& 0x7ff).toNat
  let m := (bits &&& 0xfffffffffffff).toNat
  if e = 0 then ⟨m, -1074, false⟩ else ⟨Nat.pow 2 52 + m, (e : Int) - 1075, m = 0 && 1 < e⟩

/-- How many of the points of the grid `10 ^ j` one unit of the mantissa is, as a numerator. -/
def unit (x : Binary) (j : Int) : Nat := Nat.pow 2 x.exponent.toNat * Nat.pow 10 (-j).toNat

/-- The denominator to `unit`. -/
def scale (x : Binary) (j : Int) : Nat := Nat.pow 2 (-x.exponent).toNat * Nat.pow 10 j.toNat

/-- Whether the number is below `10 ^ k`. -/
def isBelow (x : Binary) (k : Int) : Bool := x.mantissa * x.unit k < x.scale k

/-- The first of the numbers from `k` on, `fuel` at most, that is the power of a larger ten. -/
def ceiling (x : Binary) : (fuel : Nat) → (k : Int) → Int
  | 0, k => k
  | fuel + 1, k => if x.isBelow k then k else ceiling x fuel (k + 1)

/-- The least `k` with the number below `10 ^ k`.  The search begins just below the decimal
logarithm, which is `0.30103` times the binary one. -/
def magnitude (x : Binary) : Int :=
  x.ceiling 5 (((x.mantissa.log2 : Int) + x.exponent) * 30103 / 100000 - 1)

/-- Whether `d · 10 ^ j` lies in the interval of the number; the ends belong to it if the mantissa
is even. -/
def holds (x : Binary) (j : Int) (d : Nat) : Bool :=
  let low := (4 * x.mantissa - (if x.narrowBelow then 1 else 2)) * x.unit j
  let high := (4 * x.mantissa + 2) * x.unit j
  let here := 4 * d * x.scale j
  if x.mantissa % 2 = 0 then low ≤ here && here ≤ high else low < here && here < high

/-- The nearer of the two points of the grid `10 ^ j` around the number. -/
def nearer (x : Binary) (j : Int) : Nat :=
  let num := x.mantissa * x.unit j
  let d := num / x.scale j
  let half := (2 * d + 1) * x.scale j
  if 2 * num < half then d else if half < 2 * num then d + 1 else d + d % 2

/-- The point of the grid `10 ^ j` that stands for the number, if there is one. -/
def onGrid? (x : Binary) (j : Int) : Option Nat :=
  let d := x.mantissa * x.unit j / x.scale j
  if x.holds j d && x.holds j (d + 1) then some (x.nearer j)
  else if x.holds j d then some d
  else if x.holds j (d + 1) then some (d + 1)
  else none

/-- The point of the coarsest grid that has one, from `10 ^ j` to `10 ^ (j - fuel)`.  The last grid
is taken in any case. -/
def search (x : Binary) : (fuel : Nat) → (j : Int) → Scaled
  | 0, j => ⟨x.nearer j, j⟩
  | fuel + 1, j =>
    match x.onGrid? j with
    | some d => ⟨d, j⟩
    | none => x.search fuel (j - 1)

/-- The most digits that a number needs. -/
def mostDigits : Nat := 17

end Binary

namespace Scaled

/-- The same number without zeros at the end of its digits, `fuel` of them at most. -/
def trim : (fuel : Nat) → Scaled → Scaled
  | 0, s => s
  | fuel + 1, s =>
    if s.digits % 10 = 0 then trim fuel ⟨s.digits / 10, s.power + 1⟩ else s

end Scaled

/-- The shortest decimal of a positive number. -/
def Binary.shortest (x : Binary) : Scaled :=
  (x.search (mostDigits - 1) (x.magnitude - 1)).trim mostDigits

end DeskView.Text
