import SourceAudit.Number.Double

/-!
# Shortest decimals

The text of a floating-point number has the fewest decimal digits that read back as that number,
and of those the nearest ones. `shortest` looks for them grid by grid: on the grid of one-digit
decimals, then on that of two digits, and so on, it tests the two neighbours of the value against
the interval of reals that round to it. All of it is arithmetic of natural numbers.
-/

namespace SourceAudit.Double

/-- The reals that round to a number, as multiples of `2 ^ exponent`. -/
structure Interval where
  low : Nat
  value : Nat
  high : Nat
  /-- The power of two that the three are multiples of. -/
  exponent : Int
  /-- Whether the ends themselves round to the number. -/
  closed : Bool

/-- The interval of a positive finite number: half way to its neighbours, the lower one being
nearer when the mantissa is a power of two. -/
def interval (mantissa : Nat) (exponent : Int) : Interval where
  low := 4 * mantissa - (if mantissa = twoTo 52 ∧ exponent ≠ minExponent then 1 else 2)
  value := 4 * mantissa
  high := 4 * mantissa + 2
  exponent := exponent - 2
  closed := mantissa % 2 = 0

/-- The decimal `digits · 10 ^ exponent`. -/
structure Digits where
  digits : Nat
  /-- The power of ten of the last digit. -/
  exponent : Int
  deriving DecidableEq, Repr

/-- `n · 2 ^ e` and `d · 10 ^ t` as natural numbers in one unit. -/
def common (n : Nat) (e : Int) (d : Nat) (t : Int) : Nat × Nat :=
  (n * twoTo e.toNat * tenTo (-t).toNat, d * tenTo t.toNat * twoTo (-e).toNat)

/-- Whether `d · 10 ^ t` lies in the interval. -/
def Interval.contains (i : Interval) (d : Nat) (t : Int) : Bool :=
  let (low, dl) := common i.low i.exponent d t
  let (high, dh) := common i.high i.exponent d t
  if i.closed then low ≤ dl && dh ≤ high else low < dl && dh < high

/-- The power of ten of the leading digit of `value · 2 ^ exponent`. -/
def Interval.magnitude (i : Interval) : Int :=
  let (n, d) := common i.value i.exponent 1 (-400)
  ((Nat.toDigits 10 (n / d)).length : Int) - 401

/-- The nearer of the value's two neighbours on the grid of multiples of `10 ^ t` that lie in the
interval; of two equally near ones, the even one. -/
def Interval.onGrid (i : Interval) (t : Int) : Option Digits :=
  let (n, d) := common i.value i.exponent 1 t
  let below := n / d
  let nearest := roundDiv n d
  let other := if nearest = below then below + 1 else below
  if i.contains nearest t then some ⟨nearest, t⟩
  else if i.contains other t then some ⟨other, t⟩
  else none

/-- The fewest digits that read back as the positive finite number. -/
def shortest (mantissa : Nat) (exponent : Int) : Digits :=
  let i := interval mantissa exponent
  let k := i.magnitude
  let grids := (List.range 17).map fun (n : Nat) => k - (n : Int)
  (grids.findSome? i.onGrid).getD ⟨0, 0⟩

example : shortest (twoTo 52) (-52) = ⟨1, 0⟩ := by decide +kernel
example : shortest 1 (-1074) = ⟨5, -324⟩ := by decide +kernel

end SourceAudit.Double
