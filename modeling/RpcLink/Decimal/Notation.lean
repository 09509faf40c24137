import RpcLink.Decimal.Shortest

/-!
How a binary number is written: its shortest digits, positional from `1e-5` up to below `1e16`
and with an exponent outside, always with a point or an exponent.
-/

namespace RpcLink.Decimal

/-- The least and the greatest place of the point, counted from the first digit, with which
numbers are written in positions. -/
structure Positional where
  least : Int
  greatest : Int

/-- Numbers from `1e-5` up to below `1e16` are positional. -/
def positional : Positional := ⟨-4, 16⟩

/-- Digits with the point after the first `place` of them, zeros where there are none. -/
def pointedAt (digits : List Char) (place : Int) : List Char :=
  if place ≤ 0 then '0' :: '.' :: List.replicate (-place).toNat '0' ++ digits
  else
    let n := place.toNat
    if digits.length ≤ n then
      digits ++ List.replicate (n - digits.length) '0' ++ ['.', '0']
    else digits.take n ++ '.' :: digits.drop n

/-- One digit, a point before the others, and the exponent with its sign. -/
def scientific (digits : List Char) (exponent : Int) : List Char :=
  let head :=
    match digits with
    | [] => []
    | [d] => [d]
    | d :: rest => d :: '.' :: rest
  let sign := if exponent < 0 then '-' else '+'
  head ++ 'e' :: sign :: (toString exponent.natAbs).toList

/-- A binary number as text. -/
def Binary64.chars (x : Binary64) : List Char :=
  let d := x.shortest
  let digits := (toString d.digits).toList
  let place : Int := digits.length + d.exponent
  let body :=
    if x.isZero then ['0', '.', '0']
    else if positional.least ≤ place ∧ place ≤ positional.greatest then pointedAt digits place
    else scientific digits (place - 1)
  if x.negative then '-' :: body else body

end RpcLink.Decimal
