import RpcLink.Failure

/-!
Packets: four bytes that give a length, the least one first, and that many bytes of payload. A
stream of packets is cut where its bytes say, however they arrive.
-/

namespace RpcLink.Framing.Packet

/-- The number of bytes in front of a payload. -/
def headerLength : Nat := 4

/-- The lengths that a header can give are below this. -/
def headerRange : Nat := 4294967296

/-- A length within the limit, and not zero. -/
def checkLength (length limit : Nat) : Except Failure Nat :=
  if length = 0 ∨ limit < length then .error (.frameTooLarge length limit) else .ok length

/-- The header of a length. -/
def header (length : Nat) : List UInt8 :=
  [length.toUInt8, (length / 0x100).toUInt8, (length / 0x10000).toUInt8,
    (length / 0x1000000).toUInt8]

/-- The length that a header gives. -/
def lengthOf (a b c d : UInt8) : Nat :=
  a.toNat + 0x100 * b.toNat + 0x10000 * c.toNat + 0x1000000 * d.toNat

/-- A payload as a packet. -/
def encode (payload : List UInt8) (limit : Nat) : Except Failure (List UInt8) := do
  let length ← checkLength payload.length limit
  if length < headerRange then .ok (header length ++ payload)
  else .error (.frameTooLarge length limit)

/-- What bytes begin with. -/
inductive Head where
  | packet (payload rest : List UInt8)
  /-- A header with a length that is not allowed. -/
  | unusable (length : Nat)
  /-- A part of a packet, or nothing. -/
  | short
deriving DecidableEq

/-- Look for a packet at the beginning. -/
def head (limit : Nat) : List UInt8 → Head
  | a :: b :: c :: d :: rest =>
    let length := lengthOf a b c d
    if length = 0 ∨ limit < length then .unusable length
    else if rest.length < length then .short
    else .packet (rest.take length) (rest.drop length)
  | _ => .short

theorem length_rest_lt {limit : Nat} {bytes payload rest : List UInt8}
    (h : head limit bytes = .packet payload rest) : rest.length < bytes.length := by
  unfold head at h
  split at h
  · dsimp only at h
    split at h
    · cases h
    · split at h
      · cases h
      · injection h with _ h
        subst h
        simp only [List.length_drop, List.length_cons]
        omega
  · cases h

/-- What is left of a stream when no further packet can be cut from it. -/
inductive Tail where
  | short (bytes : List UInt8)
  | unusable (length : Nat)
deriving DecidableEq

/-- Cut bytes into packets: their payloads, and what is left. -/
def split (limit : Nat) (bytes : List UInt8) : List (List UInt8) × Tail :=
  match _h : head limit bytes with
  | .packet payload rest =>
    let (payloads, tail) := split limit rest
    (payload :: payloads, tail)
  | .unusable length => ([], .unusable length)
  | .short => ([], .short bytes)
termination_by bytes.length
decreasing_by exact length_rest_lt _h

/-- How a stream can end. -/
inductive Ending where
  | clean
  | failed (failure : Failure)
deriving DecidableEq

/-- The stream ended inside the header of a packet. -/
def cutHeader (count : Nat) : Failure :=
  .malformed s!"stream ended inside a length prefix ({count} of {headerLength} bytes)"

/-- The stream ended inside the payload of a packet. -/
def cutPayload (length : Nat) : Failure :=
  .malformed s!"stream ended inside a {length}-byte message"

namespace Tail

/-- How a stream ends that stops here, or breaks off with an error. An early end inside a
payload counts as a stop there. -/
def ending (limit : Nat) (broken : Option SystemError) : Tail → Ending
  | .unusable length => .failed (.frameTooLarge length limit)
  | .short [] =>
    match broken with
    | none => .clean
    | some e => .failed (.io e)
  | .short (a :: b :: c :: d :: _) =>
    match broken with
    | none => .failed (cutPayload (lengthOf a b c d))
    | some e => .failed (if e.isUnexpectedEnd then cutPayload (lengthOf a b c d) else .io e)
  | .short bytes =>
    match broken with
    | none => .failed (cutHeader bytes.length)
    | some e => .failed (.io e)

end Tail

/-- A reader of packets, and what it holds of one that is not complete. -/
structure Reader where
  limit : Nat
  tail : Tail := .short []
deriving DecidableEq

namespace Reader

/-- Take bytes: the payloads that they complete. A length that is not allowed ends the reading. -/
def feed (r : Reader) (chunk : List UInt8) : List (List UInt8) × Reader :=
  match r.tail with
  | .unusable _ => ([], r)
  | .short held =>
    let (payloads, tail) := split r.limit (held ++ chunk)
    (payloads, { r with tail })

/-- Take chunks one after the other. -/
def feedAll (r : Reader) : List (List UInt8) → List (List UInt8) × Reader
  | [] => ([], r)
  | chunk :: chunks =>
    let (first, r) := r.feed chunk
    let (others, r) := r.feedAll chunks
    (first ++ others, r)

end Reader

end RpcLink.Framing.Packet
