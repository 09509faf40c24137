/-!
The text of a span of time: its nanoseconds in the largest unit that is not below one, with
the digits after the point that are needed.
-/

namespace RpcLink.Text

/-- `value` in `width` decimal digits, zeros in front. -/
def padded (width value : Nat) : List Char :=
  let digits := (toString value).toList
  List.replicate (width - digits.length) '0' ++ digits

/-- `whole` and, unless it is zero, the fraction of `width` digits without its last zeros. -/
def pointed (whole fraction width : Nat) : String :=
  let digits := ((padded width fraction).reverse.dropWhile (· == '0')).reverse
  if digits.isEmpty then toString whole
  else toString whole ++ "." ++ String.ofList digits

/-- A span of time as text: `1.5s`, `80ms`, `1.001µs`, `7ns`. -/
def elapsed (ns : Nat) : String :=
  if 1000000000 ≤ ns then pointed (ns / 1000000000) (ns % 1000000000) 9 ++ "s"
  else if 1000000 ≤ ns then pointed (ns / 1000000) (ns % 1000000) 6 ++ "ms"
  else if 1000 ≤ ns then pointed (ns / 1000) (ns % 1000) 3 ++ "µs"
  else toString ns ++ "ns"

end RpcLink.Text
