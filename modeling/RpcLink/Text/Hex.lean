/-!
Bytes as text, two hexadecimal digits for each.
-/

namespace RpcLink.Text

/-- The character of a hexadecimal digit, in lower case. -/
def hexDigit (n : Nat) : Char :=
  "0123456789abcdef".toList.getD n '0'

/-- The value of a hexadecimal digit of either case. -/
def hexValue (c : Char) : Nat :=
  if c.isDigit then c.toNat - 48 else c.toLower.toNat - 87

/-- Bytes as digits. -/
def toHex (bytes : List UInt8) : String :=
  String.ofList (bytes.flatMap fun b => [hexDigit (b.toNat / 16), hexDigit (b.toNat % 16)])

/-- The bytes of pairs of digits; a digit without a partner is passed over. -/
def ofHexChars : List Char → List UInt8
  | a :: b :: rest => (16 * hexValue a + hexValue b).toUInt8 :: ofHexChars rest
  | _ => []

/-- The bytes that digits stand for. -/
def ofHex (s : String) : List UInt8 := ofHexChars s.toList

end RpcLink.Text
