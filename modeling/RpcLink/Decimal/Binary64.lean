/-!
Finite binary floating-point numbers of 64 bits, held exactly: a sign and `mantissa · 2^exponent`.
A ratio of natural numbers rounds to the nearest of them, a tie to the even mantissa.
-/

namespace RpcLink.Decimal

/-- A power of two. -/
def twoTo (n : Nat) : Nat := Nat.pow 2 n

/-- A power of ten. -/
def tenTo (n : Nat) : Nat := Nat.pow 10 n

/-- The first of 53 bits. -/
def firstBit : Nat := 0x10000000000000

/-- `(mantissa, exponent)` is the one form of a finite number: 53 bits, of which the first is
set unless the exponent is the least one. -/
def IsForm (mantissa : Nat) (exponent : Int) : Prop :=
  mantissa < 2 * firstBit ∧ -1074 ≤ exponent ∧ exponent ≤ 971 ∧
    (firstBit ≤ mantissa ∨ exponent = -1074)

instance (mantissa : Nat) (exponent : Int) : Decidable (IsForm mantissa exponent) :=
  inferInstanceAs (Decidable (_ ∧ _ ∧ _ ∧ (_ ∨ _)))

structure Binary64 where
  negative : Bool
  mantissa : Nat
  exponent : Int
  form : IsForm mantissa exponent
deriving DecidableEq

namespace Binary64

def zero : Binary64 :=
  ⟨false, 0, -1074, by decide⟩

instance : Inhabited Binary64 := ⟨zero⟩

def isZero (x : Binary64) : Bool :=
  x.mantissa == 0

def neg (x : Binary64) : Binary64 :=
  { x with negative := !x.negative }

/-- The magnitude as a ratio of natural numbers. -/
def ratio (x : Binary64) : Nat × Nat :=
  if 0 ≤ x.exponent then (x.mantissa * twoTo x.exponent.toNat, 1)
  else (x.mantissa, twoTo (-x.exponent).toNat)

/-- `num / den`, rounded to the nearest natural number, a tie to the even one. -/
def roundDiv (num den : Nat) : Nat :=
  let q := num / den
  let r := num % den
  if 2 * r < den then q
  else if den < 2 * r then q + 1
  else if q % 2 = 0 then q else q + 1

/-- `(num / den) / 2^e` as a ratio of natural numbers. -/
def scaled (num den : Nat) (e : Int) : Nat × Nat :=
  if 0 ≤ e then (num, den * twoTo e.toNat) else (num * twoTo (-e).toNat, den)

/-- The exponent with which `num / den` has 53 bits, or the least exponent. -/
def exponentOf (num den : Nat) : Int :=
  let guess : Int := (Nat.log2 num : Int) - (Nat.log2 den : Int) - 52
  let (n, d) := scaled num den guess
  max (-1074) (if n < d * firstBit then guess - 1 else guess)

/-- The number nearest to `num / den`, unless that is beyond the largest finite one. -/
def ofRatio? (num den : Nat) : Option Binary64 :=
  if num = 0 then some zero else
  let e := exponentOf num den
  let (n, d) := scaled num den e
  let m := roundDiv n d
  let (m, e) := if m = 2 * firstBit then (firstBit, e + 1) else (m, e)
  if h : IsForm m e then some ⟨false, m, e, h⟩ else none

def ofNat? (n : Nat) : Option Binary64 :=
  ofRatio? n 1

/-- The product of the magnitudes. -/
def mul? (x y : Binary64) : Option Binary64 :=
  ofRatio? (x.ratio.1 * y.ratio.1) (x.ratio.2 * y.ratio.2)

/-- The quotient of the magnitudes. -/
def div? (x y : Binary64) : Option Binary64 :=
  ofRatio? (x.ratio.1 * y.ratio.2) (x.ratio.2 * y.ratio.1)

/-- The number nearest to a power of ten. -/
def powerOfTen? (n : Nat) : Option Binary64 :=
  ofNat? (tenTo n)

/-- `x · 10^exponent` by at most one multiplication or by divisions, each of them rounded:
the powers of ten go up to 308, and a smaller exponent takes a division by `10^308` at a time.
There is no result where the largest finite number is passed. -/
def scaleByTen? (x : Binary64) (exponent : Int) : Option Binary64 :=
  if exponent < -308 then
    if x.isZero then some x
    else do scaleByTen? (← x.div? (← powerOfTen? 308)) (exponent + 308)
  else if exponent < 0 then do x.div? (← powerOfTen? (-exponent).toNat)
  else if exponent ≤ 308 then do x.mul? (← powerOfTen? exponent.toNat)
  else if x.isZero then some x
  else none
termination_by (-exponent).toNat

/-- The sign given to a magnitude. -/
def signed (negative : Bool) (x : Binary64) : Binary64 :=
  { x with negative }

end Binary64

end RpcLink.Decimal
