/-!
UTF-8: encoding, strict decoding with the place of the first fault, and lossy decoding.

A byte that cannot continue the sequence begun before it ends that sequence, and is then
read as the start of a new one. So a fault covers the longest beginning of a sequence that
was still possible, and one replacement character stands for it in lossy text.
-/

namespace RpcLink.Text.Utf8

/-- The bytes of the characters, one after the other. -/
def encode (cs : List Char) : List UInt8 :=
  cs.flatMap String.utf8EncodeChar

/-- The bytes of a text. -/
def ofString (s : String) : List UInt8 :=
  encode s.toList

/-- What a stretch of bytes stands for. -/
inductive Piece
  | char (c : Char)
  /-- `width` bytes that begin no character. -/
  | broken (width : Nat)
  /-- The bytes ended inside a character. -/
  | cut
deriving DecidableEq

/-- Where a reader stands: between characters, or inside a sequence that needs `left` more
bytes, the next of them from `low` to `high`. -/
inductive Place
  | between
  | inside (left : Nat) (low high : UInt8) (value seen : Nat)
deriving DecidableEq

/-- A reader's place and the pieces behind it, the latest first. -/
structure Scan where
  place : Place := .between
  pieces : List Piece := []

/-- Read the first byte of a sequence. -/
def Scan.begin (pieces : List Piece) (b : UInt8) : Scan :=
  let n := b.toNat
  if n < 0x80 then ⟨.between, .char (Char.ofNat n) :: pieces⟩
  else if n < 0xC2 then ⟨.between, .broken 1 :: pieces⟩
  else if n < 0xE0 then ⟨.inside 1 0x80 0xBF (n - 0xC0) 1, pieces⟩
  else if n < 0xF0 then
    ⟨.inside 2 (if n = 0xE0 then 0xA0 else 0x80) (if n = 0xED then 0x9F else 0xBF) (n - 0xE0) 1,
      pieces⟩
  else if n < 0xF5 then
    ⟨.inside 3 (if n = 0xF0 then 0x90 else 0x80) (if n = 0xF4 then 0x8F else 0xBF) (n - 0xF0) 1,
      pieces⟩
  else ⟨.between, .broken 1 :: pieces⟩

/-- Read one byte. -/
def Scan.step (s : Scan) (b : UInt8) : Scan :=
  match s.place with
  | .between => .begin s.pieces b
  | .inside left low high value seen =>
    if low ≤ b && b ≤ high then
      let value := value * 64 + (b.toNat - 0x80)
      if left ≤ 1 then ⟨.between, .char (Char.ofNat value) :: s.pieces⟩
      else ⟨.inside (left - 1) 0x80 0xBF value (seen + 1), s.pieces⟩
    else .begin (.broken seen :: s.pieces) b

/-- The pieces of a finished reading, in order. -/
def Scan.finish (s : Scan) : List Piece :=
  match s.place with
  | .between => s.pieces.reverse
  | .inside .. => (.cut :: s.pieces).reverse

/-- The pieces that bytes fall into. -/
def pieces (bytes : List UInt8) : List Piece :=
  (bytes.foldl Scan.step {}).finish

/-- Why bytes are not UTF-8, with the number of good bytes before the fault. -/
inductive Fault
  | broken (width index : Nat)
  | cut (index : Nat)
deriving DecidableEq

def Fault.message : Fault → String
  | .broken width index => s!"invalid utf-8 sequence of {width} bytes from index {index}"
  | .cut index => s!"incomplete utf-8 byte sequence from index {index}"

/-- The characters of the pieces, unless one is no character. -/
def collect : List Piece → (index : Nat) → (behind : List Char) → Except Fault (List Char)
  | [], _, behind => .ok behind.reverse
  | .char c :: rest, index, behind => collect rest (index + c.utf8Size) (c :: behind)
  | .broken width :: _, index, _ => .error (.broken width index)
  | .cut :: _, index, _ => .error (.cut index)

/-- The characters of UTF-8 bytes, or the first fault. -/
def decode (bytes : List UInt8) : Except Fault (List Char) :=
  collect (pieces bytes) 0 []

/-- The characters of bytes, U+FFFD in place of each fault. -/
def lossy (bytes : List UInt8) : List Char :=
  (pieces bytes).map fun
    | .char c => c
    | .broken _ => '\uFFFD'
    | .cut => '\uFFFD'

end RpcLink.Text.Utf8
