/-!
White space in text: the Unicode property White_Space, and trimming by it.
-/

namespace RpcLink.Text

/-- The characters with the Unicode property White_Space. -/
def isBlank (c : Char) : Bool :=
  let n := c.toNat
  (9 ≤ n && n ≤ 13) || n == 0x20 || n == 0x85 || n == 0xA0 || n == 0x1680 ||
    (0x2000 ≤ n && n ≤ 0x200A) || n == 0x2028 || n == 0x2029 || n == 0x202F ||
    n == 0x205F || n == 0x3000

/-- The characters between the first and the last one that is not blank. -/
def trimChars (cs : List Char) : List Char :=
  ((cs.dropWhile isBlank).reverse.dropWhile isBlank).reverse

/-- Text without the blanks at its two ends. -/
def trim (s : String) : String :=
  String.ofList (trimChars s.toList)

/-- Text that holds nothing but blanks, the empty text included. -/
def allBlank (s : String) : Bool :=
  s.toList.all isBlank

/-- The first `n` characters of a text. -/
def takeChars (n : Nat) (s : String) : String :=
  String.ofList (s.toList.take n)

end RpcLink.Text
