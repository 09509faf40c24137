import RpcLink.Decimal.Binary64

/-!
The shortest decimal digits that read back as a given binary number, and of those the
nearest to it.

The numbers that round to `x` form an interval around it, with its ends when the mantissa
is even. On the grid of decimals with `n` digits only the two neighbours of `x` matter: if any
point of the grid is in the interval, one of them is.
-/

namespace RpcLink.Decimal

/-- `digits · 10^exponent`. -/
structure Numeral where
  digits : Nat
  exponent : Int
deriving DecidableEq

/-- A ratio `num / den` and the interval `low / den` to `high / den` around it. -/
structure Interval where
  num : Nat
  low : Nat
  high : Nat
  den : Nat
  closed : Bool

/-- The numbers that round to `x`. The next number below a power of two is half as far. -/
def Binary64.interval (x : Binary64) : Interval :=
  let below := if x.mantissa = firstBit ∧ x.exponent ≠ -1074 then 1 else 2
  let e := x.exponent - 2
  let (up, den) := if 0 ≤ e then (twoTo e.toNat, 1) else (1, twoTo (-e).toNat)
  { num := 4 * x.mantissa * up
    low := (4 * x.mantissa - below) * up
    high := (4 * x.mantissa + 2) * up
    den
    closed := x.mantissa % 2 == 0 }

namespace Interval

/-- `a · 10^k` against `b / den`, as two numbers to compare. -/
def sides (i : Interval) (a : Nat) (k : Int) (b : Nat) : Nat × Nat :=
  if 0 ≤ k then (a * tenTo k.toNat * i.den, b) else (a * i.den, b * tenTo (-k).toNat)

/-- Whether `a · 10^k` is in the interval. -/
def holds (i : Interval) (a : Nat) (k : Int) : Bool :=
  let (x, low) := i.sides a k i.low
  let (y, high) := i.sides a k i.high
  if i.closed then low ≤ x && y ≤ high else low < x && y < high

/-- The decimal exponent of the first digit. -/
def leading (i : Interval) : Int :=
  let guess : Int := ((Nat.log2 i.num : Int) - (Nat.log2 i.den : Int)) * 30103 / 100000
  let reaches (p : Int) : Bool := let (x, y) := i.sides 1 p i.num; x ≤ y
  if reaches (guess + 1) then guess + 1 else if reaches guess then guess else guess - 1

/-- The point of the grid `10^k` nearest to the middle, if one of its two neighbours there is
in the interval; of two equally near the even one. -/
def onGrid? (i : Interval) (k : Int) : Option Nat :=
  let (n, d) := if 0 ≤ k then (i.num, i.den * tenTo k.toNat) else (i.num * tenTo (-k).toNat, i.den)
  let floor := n / d
  let ceiling := if n % d = 0 then floor else floor + 1
  match i.holds floor k, i.holds ceiling k with
  | true, true => some (Binary64.roundDiv n d)
  | true, false => some floor
  | false, true => some ceiling
  | false, false => none

/-- The first grid with a point, from one digit on. -/
def search (i : Interval) : (grids : Nat) → (k : Int) → Option Numeral
  | 0, _ => none
  | grids + 1, k =>
    match i.onGrid? k with
    | some digits => some ⟨digits, k⟩
    | none => i.search grids (k - 1)

end Interval

/-- A decimal without zeros at its end. -/
def Numeral.stripped : (steps : Nat) → Numeral → Numeral
  | 0, d => d
  | steps + 1, d =>
    if d.digits ≠ 0 ∧ d.digits % 10 = 0 then stripped steps ⟨d.digits / 10, d.exponent + 1⟩ else d

/-- The shortest decimal that reads back as the magnitude of `x`. Seventeen digits always do. -/
def Binary64.shortest (x : Binary64) : Numeral :=
  if x.isZero then ⟨0, 0⟩ else
  match x.interval.search 17 x.interval.leading with
  | some d => d.stripped 18
  | none => ⟨0, 0⟩

end RpcLink.Decimal
