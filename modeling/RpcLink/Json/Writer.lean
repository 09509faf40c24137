import RpcLink.Json.Basic
import RpcLink.Decimal.Notation
import RpcLink.Text.Hex
import RpcLink.Text.Utf8

/-!
JSON as text: compact, on one line without spaces, and indented by two spaces. Fields are
written in the order in which the value holds them.
-/

namespace RpcLink.Json

/-- A number as text. -/
def Number.chars : Number → List Char
  | .integer value _ => (toString value).toList
  | .float value => value.chars

/-- One character inside a string. Controls are escaped, by a short escape where there is one,
and so are quotes and backslashes. -/
def escapeChar (c : Char) : List Char :=
  if c = '"' then ['\\', '"']
  else if c = '\\' then ['\\', '\\']
  else if c = '\x08' then ['\\', 'b']
  else if c = '\t' then ['\\', 't']
  else if c = '\n' then ['\\', 'n']
  else if c = '\x0c' then ['\\', 'f']
  else if c = '\r' then ['\\', 'r']
  else if c.toNat < 0x20 then
    ['\\', 'u', '0', '0', Text.hexDigit (c.toNat / 16), Text.hexDigit (c.toNat % 16)]
  else [c]

/-- A string between quotes. -/
def stringChars (s : String) : List Char :=
  '"' :: s.toList.flatMap escapeChar ++ ['"']

/-- The characters of the compact text. -/
def chars : Json → List Char
  | .null => ['n', 'u', 'l', 'l']
  | .bool true => ['t', 'r', 'u', 'e']
  | .bool false => ['f', 'a', 'l', 's', 'e']
  | .number n => n.chars
  | .string s => stringChars s
  | .array items => '[' :: itemChars items ++ [']']
  | .object fields => '\x7b' :: fieldChars fields ++ ['\x7d']
where
  /-- Items with commas between them. -/
  itemChars : List Json → List Char
    | [] => []
    | [item] => item.chars
    | item :: rest => item.chars ++ ',' :: itemChars rest
  /-- Fields with commas between them. -/
  fieldChars : List (String × Json) → List Char
    | [] => []
    | [(key, value)] => stringChars key ++ ':' :: value.chars
    | (key, value) :: rest => stringChars key ++ ':' :: value.chars ++ ',' :: fieldChars rest

/-- The compact text. -/
def compact (v : Json) : String :=
  String.ofList v.chars

/-- The bytes of the compact text. -/
def bytes (v : Json) : List UInt8 :=
  Text.Utf8.encode v.chars

/-- The number of bytes of the compact text. -/
def byteLength (v : Json) : Nat :=
  v.bytes.length

/-- A line break and the indentation of a level. -/
def indentation (level : Nat) : List Char :=
  '\n' :: List.replicate (2 * level) ' '

/-- The characters of the indented text of a value that stands at a level. -/
def indentedChars (level : Nat) : Json → List Char
  | .array [] => ['[', ']']
  | .array items => '[' :: itemLines (level + 1) items ++ indentation level ++ [']']
  | .object [] => ['\x7b', '\x7d']
  | .object fields => '\x7b' :: fieldLines (level + 1) fields ++ indentation level ++ ['\x7d']
  | other => other.chars
where
  /-- Items on lines of their own. -/
  itemLines (level : Nat) : List Json → List Char
    | [] => []
    | [item] => indentation level ++ item.indentedChars level
    | item :: rest => indentation level ++ item.indentedChars level ++ ',' :: itemLines level rest
  /-- Fields on lines of their own. -/
  fieldLines (level : Nat) : List (String × Json) → List Char
    | [] => []
    | [(key, value)] =>
      indentation level ++ stringChars key ++ ':' :: ' ' :: value.indentedChars level
    | (key, value) :: rest =>
      indentation level ++ stringChars key ++ ':' :: ' ' :: value.indentedChars level ++
        ',' :: fieldLines level rest

/-- The indented text. -/
def indented (v : Json) : String :=
  String.ofList (v.indentedChars 0)

end RpcLink.Json
