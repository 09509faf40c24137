import RpcLink.Json.Basic
import RpcLink.Text.Utf8

/-!
Reading JSON from bytes. A fault names its cause and the line and column of its place, columns
counted in bytes. Arrays and objects nest at most 127 deep. Of equal keys in an object the last
one counts. An integer that does not fit a 64-bit word, and every number with a point or an
exponent, becomes a binary floating-point number: its digits, as many of them as fit a word,
scaled by a power of ten.
-/

namespace RpcLink.Json.Read

/-- What is wrong at the place of a fault. -/
inductive Cause
  | listEnded
  | objectEnded
  | stringEnded
  | valueEnded
  | colonExpected
  | listCommaExpected
  | objectCommaExpected
  | identExpected
  | valueExpected
  | badEscape
  | badNumber
  | numberTooLarge
  | badCodePoint
  | controlInString
  | keyNotString
  | loneSurrogate
  | trailingComma
  | trailingCharacters
  | surrogatePairExpected
  | tooDeep
deriving DecidableEq

def Cause.message : Cause → String
  | .listEnded => "EOF while parsing a list"
  | .objectEnded => "EOF while parsing an object"
  | .stringEnded => "EOF while parsing a string"
  | .valueEnded => "EOF while parsing a value"
  | .colonExpected => "expected \x60:\x60"
  | .listCommaExpected => "expected \x60,\x60 or \x60]\x60"
  | .objectCommaExpected => "expected \x60,\x60 or \x60\x7d\x60"
  | .identExpected => "expected ident"
  | .valueExpected => "expected value"
  | .badEscape => "invalid escape"
  | .badNumber => "invalid number"
  | .numberTooLarge => "number out of range"
  | .badCodePoint => "invalid unicode code point"
  | .controlInString => "control character (\\u0000-\\u001F) found while parsing a string"
  | .keyNotString => "key must be a string"
  | .loneSurrogate => "lone leading surrogate in hex escape"
  | .trailingComma => "trailing comma"
  | .trailingCharacters => "trailing characters"
  | .surrogatePairExpected => "unexpected end of hex escape"
  | .tooDeep => "recursion limit exceeded"

/-- A fault inside a text, placed by the number of bytes behind it. -/
structure Fault where
  cause : Cause
  left : Nat
deriving DecidableEq

/-- A fault just before the given bytes. -/
def faultAt {α : Type} (cause : Cause) (rest : List UInt8) : Except Fault α :=
  .error ⟨cause, rest.length⟩

/-- A fault just after the first of the given bytes, if there is one. -/
def faultOn {α : Type} (cause : Cause) (rest : List UInt8) : Except Fault α :=
  .error ⟨cause, rest.length - 1⟩

/-- The space, tab and line characters between tokens. -/
def isSpace (b : UInt8) : Bool :=
  b == 0x20 || b == 0x0A || b == 0x09 || b == 0x0D

def skipSpaces (bytes : List UInt8) : List UInt8 :=
  bytes.dropWhile isSpace

def isDigit (b : UInt8) : Bool :=
  0x30 ≤ b && b ≤ 0x39

def digitValue (b : UInt8) : Nat :=
  b.toNat - 0x30

/-! ### Words and strings -/

/-- The rest of a word such as `null`. -/
def word : (expected : List UInt8) → (value : Json) → List UInt8 → Except Fault (Json × List UInt8)
  | [], value, bytes => .ok (value, bytes)
  | _ :: _, _, [] => faultAt .valueEnded []
  | e :: expected, value, b :: bytes =>
    if b = e then word expected value bytes else faultAt .identExpected bytes

/-- The value of a hexadecimal digit. -/
def hexValue? (b : UInt8) : Option Nat :=
  if isDigit b then some (digitValue b)
  else if 0x61 ≤ b && b ≤ 0x66 then some (b.toNat - 0x61 + 10)
  else if 0x41 ≤ b && b ≤ 0x46 then some (b.toNat - 0x41 + 10)
  else none

/-- The value of four hexadecimal digits. -/
def hexValue4? (a b c d : UInt8) : Option Nat := do
  pure (((← hexValue? a) * 16 + (← hexValue? b)) * 256 + (← hexValue? c) * 16 + (← hexValue? d))

/-- The byte that a short escape stands for. -/
def shortEscape? (b : UInt8) : Option UInt8 :=
  if b = 0x22 || b = 0x5C || b = 0x2F then some b
  else if b = 0x62 then some 0x08
  else if b = 0x66 then some 0x0C
  else if b = 0x6E then some 0x0A
  else if b = 0x72 then some 0x0D
  else if b = 0x74 then some 0x09
  else none

def isTrailSurrogate (n : Nat) : Bool := 0xDC00 ≤ n && n ≤ 0xDFFF

def isLeadSurrogate (n : Nat) : Bool := 0xD800 ≤ n && n ≤ 0xDBFF

/-- Put the bytes of a code point behind bytes that are held in reverse. -/
def pushCodePoint (n : Nat) (behind : List UInt8) : List UInt8 :=
  (String.utf8EncodeChar (Char.ofNat n)).reverse ++ behind

/-- The content of a string and its closing quote. The bytes read so far are held in reverse,
escapes resolved. -/
def stringBody : List UInt8 → (behind : List UInt8) → Except Fault (List UInt8 × List UInt8)
  | [], _ => faultAt .stringEnded []
  | b :: rest, behind =>
    if b = 0x22 then .ok (behind.reverse, rest)
    else if b = 0x5C then
      match rest with
      | [] => faultAt .stringEnded []
      | e :: rest =>
        if e = 0x75 then
          match rest with
          | h1 :: h2 :: h3 :: h4 :: rest =>
            match hexValue4? h1 h2 h3 h4 with
            | none => faultAt .badEscape rest
            | some n =>
              if isTrailSurrogate n then faultAt .loneSurrogate rest
              else if isLeadSurrogate n then
                match rest with
                | [] => faultAt .stringEnded []
                | b1 :: rest =>
                  if b1 ≠ 0x5C then faultAt .surrogatePairExpected rest else
                  match rest with
                  | [] => faultAt .stringEnded []
                  | b2 :: rest =>
                    if b2 ≠ 0x75 then faultAt .surrogatePairExpected rest else
                    match rest with
                    | l1 :: l2 :: l3 :: l4 :: rest =>
                      match hexValue4? l1 l2 l3 l4 with
                      | none => faultAt .badEscape rest
                      | some m =>
                        if isTrailSurrogate m then
                          stringBody rest
                            (pushCodePoint (0x10000 + (n - 0xD800) * 0x400 + (m - 0xDC00)) behind)
                        else faultAt .loneSurrogate rest
                    | _ => faultAt .stringEnded []
              else stringBody rest (pushCodePoint n behind)
          | _ => faultAt .stringEnded []
        else
          match shortEscape? e with
          | some c => stringBody rest (c :: behind)
          | none => faultAt .badEscape rest
    else if b < 0x20 then faultAt .controlInString rest
    else stringBody rest (b :: behind)

/-- A string after its opening quote. Its content must be UTF-8. -/
def string (bytes : List UInt8) : Except Fault (String × List UInt8) := do
  let (content, rest) ← stringBody bytes []
  match Text.Utf8.decode content with
  | .ok cs => .ok (String.ofList cs, rest)
  | .error _ => faultAt .badCodePoint rest

/-! ### Numbers -/

/-- The bound of an unsigned word. -/
def wordBound : Nat := 0x10000000000000000

/-- The bound of the digits of an exponent. -/
def exponentBound : Nat := 0x80000000

/-- Keep an exponent in 32 bits. -/
def clampExponent (e : Int) : Int :=
  max (-0x80000000) (min 0x7FFFFFFF e)

/-- Digits taken into `significand` while it fits a word, with their count; then the rest, which
begins with a digit only if that one did not fit. -/
def takeDigits : List UInt8 → (significand count : Nat) → Nat × Nat × List UInt8
  | [], significand, count => (significand, count, [])
  | b :: rest, significand, count =>
    if isDigit b then
      let next := significand * 10 + digitValue b
      if next < wordBound then takeDigits rest next (count + 1) else (significand, count, b :: rest)
    else (significand, count, b :: rest)

/-- A signed binary number that is `significand · 10^exponent`. -/
def scaled (negative : Bool) (significand : Nat) (exponent : Int) (rest : List UInt8) :
    Except Fault (Number × List UInt8) :=
  match (Decimal.Binary64.ofNat? significand).bind (·.scaleByTen? exponent) with
  | some x => .ok (.float (x.signed negative), rest)
  | none => faultAt .numberTooLarge rest

/-- The digits of an exponent, or where they pass its bound. -/
def takeExponent : List UInt8 → (value : Nat) → (Option Nat) × List UInt8
  | [], value => (some value, [])
  | b :: rest, value =>
    if isDigit b then
      let next := value * 10 + digitValue b
      if next < exponentBound then takeExponent rest next else (none, rest)
    else (some value, b :: rest)

/-- The exponent of a number, after its `e`. -/
def exponentPart (negative : Bool) (significand : Nat) (start : Int) (bytes : List UInt8) :
    Except Fault (Number × List UInt8) :=
  let (down, bytes) :=
    match bytes with
    | b :: rest =>
      if b = 0x2B then (false, rest) else if b = 0x2D then (true, rest) else (false, bytes)
    | [] => (false, [])
  match bytes with
  | [] => faultAt .valueEnded []
  | d :: rest =>
    if isDigit d then
      match takeExponent rest (digitValue d) with
      | (some e, rest) =>
        scaled negative significand (clampExponent (if down then start - e else start + e)) rest
      | (none, rest) =>
        if significand ≠ 0 && !down then faultAt .numberTooLarge rest
        else .ok (.float (Decimal.Binary64.zero.signed negative), rest.dropWhile isDigit)
    else faultAt .badNumber rest

/-- What follows the digits of a number that is no integer. -/
def afterDigits (negative : Bool) (significand : Nat) (exponent : Int) (bytes : List UInt8) :
    Except Fault (Number × List UInt8) :=
  match bytes with
  | b :: rest =>
    if b = 0x65 || b = 0x45 then exponentPart negative significand exponent rest
    else scaled negative significand exponent bytes
  | [] => scaled negative significand exponent []

/-- The fraction of a number, after its point. Digits that fit no word are dropped. -/
def fractionPart (negative : Bool) (significand : Nat) (exponent : Int) (bytes : List UInt8) :
    Except Fault (Number × List UInt8) :=
  let (significand, count, rest) := takeDigits bytes significand 0
  match rest with
  | [] =>
    if count = 0 then faultOn .valueEnded []
    else afterDigits negative significand (exponent - count) []
  | b :: _ =>
    if isDigit b then afterDigits negative significand (exponent - count) (rest.dropWhile isDigit)
    else if count = 0 then faultOn .badNumber rest
    else afterDigits negative significand (exponent - count) rest

/-- An integer part that fits no word: each digit left out counts as a power of ten. -/
def longInteger (negative : Bool) (significand : Nat) (bytes : List UInt8) :
    Except Fault (Number × List UInt8) :=
  let exponent : Int := (bytes.takeWhile isDigit).length
  match bytes.dropWhile isDigit with
  | b :: rest =>
    if b = 0x2E then fractionPart negative significand exponent rest
    else afterDigits negative significand exponent (b :: rest)
  | [] => scaled negative significand exponent []

/-- An integer, or the binary number for a negative one that fits no word, `-0` among them. -/
def integer (negative : Bool) (significand : Nat) (rest : List UInt8) :
    Except Fault (Number × List UInt8) :=
  if negative then
    if h : 0 < significand ∧ significand ≤ 0x8000000000000000 then
      .ok (.integer (-(significand : Int)) ⟨by omega, by omega⟩, rest)
    else scaled true significand 0 rest
  else if h : significand < 0x10000000000000000 then
    .ok (.integer significand ⟨by omega, by omega⟩, rest)
  else scaled false significand 0 rest

/-- What follows the integer part of a number. -/
def afterInteger (negative : Bool) (significand : Nat) (bytes : List UInt8) :
    Except Fault (Number × List UInt8) :=
  match bytes with
  | b :: rest =>
    if b = 0x2E then fractionPart negative significand 0 rest
    else if b = 0x65 || b = 0x45 then exponentPart negative significand 0 rest
    else integer negative significand bytes
  | [] => integer negative significand []

/-- A number after its sign. -/
def number (negative : Bool) (bytes : List UInt8) : Except Fault (Number × List UInt8) :=
  match bytes with
  | [] => faultAt .valueEnded []
  | d :: rest =>
    if d = 0x30 then
      match rest with
      | b :: _ => if isDigit b then faultOn .badNumber rest else afterInteger negative 0 rest
      | [] => afterInteger negative 0 []
    else if isDigit d then
      let (significand, _, rest) := takeDigits (d :: rest) 0 0
      match rest with
      | b :: _ =>
        if isDigit b then longInteger negative significand rest
        else afterInteger negative significand rest
      | [] => afterInteger negative significand []
    else faultAt .badNumber rest

/-! ### Values -/

/-- How to read one value. -/
abbrev Item := List UInt8 → Except Fault (Json × List UInt8)

/-- Items of an array, from the first byte of one on, to the closing bracket. Each takes a byte
at least, so `rounds` is enough when it is the number of bytes. -/
def items (item : Item) :
    (rounds : Nat) → (behind : List Json) → List UInt8 → Except Fault (List Json × List UInt8)
  | 0, _, bytes => faultOn .listEnded bytes
  | rounds + 1, behind, bytes => do
    let (value, rest) ← item bytes
    match skipSpaces rest with
    | [] => faultOn .listEnded []
    | b :: rest =>
      if b = 0x5D then .ok ((value :: behind).reverse, rest)
      else if b = 0x2C then
        match skipSpaces rest with
        | [] => faultOn .valueEnded []
        | c :: more =>
          if c = 0x5D then faultOn .trailingComma (c :: more)
          else items item rounds (value :: behind) (c :: more)
      else faultOn .listCommaExpected (b :: rest)

/-- An array after its opening bracket. -/
def array (item : Item) (rounds : Nat) (bytes : List UInt8) : Except Fault (Json × List UInt8) :=
  match skipSpaces bytes with
  | [] => faultOn .listEnded []
  | b :: rest =>
    if b = 0x5D then .ok (.array [], rest)
    else do
      let (values, rest) ← items item rounds [] (b :: rest)
      .ok (.array values, rest)

/-- A key after its opening quote, the colon, and the value. -/
def field (item : Item) (bytes : List UInt8) : Except Fault ((String × Json) × List UInt8) := do
  let (key, rest) ← string bytes
  match skipSpaces rest with
  | [] => faultOn .objectEnded []
  | b :: rest =>
    if b = 0x3A then do
      let (value, rest) ← item rest
      .ok ((key, value), rest)
    else faultOn .colonExpected (b :: rest)

/-- Fields of an object, from after the opening quote of a key on, to the closing brace. -/
def fields (item : Item) :
    (rounds : Nat) → (behind : Fields) → List UInt8 → Except Fault (Fields × List UInt8)
  | 0, _, bytes => faultOn .objectEnded bytes
  | rounds + 1, behind, bytes => do
    let ((key, value), rest) ← field item bytes
    let behind := Fields.insert key value behind
    match skipSpaces rest with
    | [] => faultOn .objectEnded []
    | b :: rest =>
      if b = 0x7D then .ok (behind, rest)
      else if b = 0x2C then
        match skipSpaces rest with
        | [] => faultOn .valueEnded []
        | c :: more =>
          if c = 0x22 then fields item rounds behind more
          else if c = 0x7D then faultOn .trailingComma (c :: more)
          else faultOn .keyNotString (c :: more)
      else faultOn .objectCommaExpected (b :: rest)

/-- An object after its opening brace. -/
def object (item : Item) (rounds : Nat) (bytes : List UInt8) :
    Except Fault (Json × List UInt8) :=
  match skipSpaces bytes with
  | [] => faultOn .objectEnded []
  | b :: rest =>
    if b = 0x7D then .ok (.object [], rest)
    else if b = 0x22 then do
      let (fs, rest) ← fields item rounds [] rest
      .ok (.object fs, rest)
    else faultOn .keyNotString (b :: rest)

/-- A value, given how to read what stands in brackets, from the opening bracket on. -/
def valueWith (bracketed : Item) (bytes : List UInt8) : Except Fault (Json × List UInt8) :=
  match skipSpaces bytes with
  | [] => faultOn .valueEnded []
  | b :: rest =>
    if b = 0x6E then word [0x75, 0x6C, 0x6C] .null rest
    else if b = 0x74 then word [0x72, 0x75, 0x65] (.bool true) rest
    else if b = 0x66 then word [0x61, 0x6C, 0x73, 0x65] (.bool false) rest
    else if b = 0x2D then do
      let (n, rest) ← number true rest
      .ok (.number n, rest)
    else if isDigit b then do
      let (n, rest) ← number false (b :: rest)
      .ok (.number n, rest)
    else if b = 0x22 then do
      let (s, rest) ← string rest
      .ok (.string s, rest)
    else if b = 0x5B || b = 0x7B then bracketed (b :: rest)
    else faultOn .valueExpected (b :: rest)

/-- A value in which arrays and objects nest at most `nesting` deep. -/
def value (rounds : Nat) : (nesting : Nat) → Item
  | 0 => valueWith (faultOn .tooDeep)
  | nesting + 1 =>
    valueWith fun
      | [] => faultOn .valueEnded []
      | b :: rest =>
        if b = 0x5B then array (value rounds nesting) rounds rest
        else object (value rounds nesting) rounds rest

/-- How deep arrays and objects may nest. -/
def maxNesting : Nat := 127

/-- One value, with nothing but space behind it. -/
def whole (bytes : List UInt8) : Except Fault Json := do
  let (v, rest) ← value (bytes.length + 1) maxNesting bytes
  match skipSpaces rest with
  | [] => .ok v
  | b :: rest => faultOn .trailingCharacters (b :: rest)

end RpcLink.Json.Read

namespace RpcLink.Json

/-- Why a text is no JSON, with the place by line, from one on, and byte in the line. -/
structure ReadError where
  cause : Read.Cause
  line : Nat
  column : Nat
deriving DecidableEq

def ReadError.message (e : ReadError) : String :=
  s!"{e.cause.message} at line {e.line} column {e.column}"

/-- The place of a fault in its text. -/
def Read.Fault.locate (bytes : List UInt8) (f : Read.Fault) : ReadError :=
  let before := bytes.take (bytes.length - f.left)
  { cause := f.cause
    line := 1 + before.count 0x0A
    column := (before.reverse.takeWhile (· != 0x0A)).length }

/-- Read bytes as one JSON value. -/
def parseBytes (bytes : List UInt8) : Except ReadError Json :=
  (Read.whole bytes).mapError (·.locate bytes)

/-- Read characters as one JSON value. -/
def parseChars (cs : List Char) : Except ReadError Json :=
  parseBytes (Text.Utf8.encode cs)

/-- Read a text as one JSON value. -/
def parse (s : String) : Except ReadError Json :=
  parseChars s.toList

end RpcLink.Json
