import RpcLink.Framing.Packet

/-!
A source of packets that is read on demand. A read gives bytes that have come, as many as there is
room for, and gives none only at the end of the source. The header of a packet is filled read by
read, and then its payload.
-/

namespace RpcLink.Framing.Packet

/-- What the reads from a source find. -/
structure Source where
  chunks : List (List UInt8)
  /-- The error with which the source breaks off behind the last chunk, if it does. -/
  broken : Option SystemError := none

namespace Source

/-- What is still to be read. -/
def bytes (s : Source) : List UInt8 := s.chunks.flatten

/-- Read bytes that have come, as many as there is room for. -/
def readChunks (room : Nat) : List (List UInt8) → List UInt8 × List (List UInt8)
  | [] => ([], [])
  | [] :: chunks => readChunks room chunks
  | (byte :: bytes) :: chunks => ((byte :: bytes).take room, (byte :: bytes).drop room :: chunks)

def read (s : Source) (room : Nat) : Except SystemError (List UInt8 × Source) :=
  match readChunks room s.chunks with
  | ([], chunks) => s.broken.elim (.ok ([], { s with chunks })) .error
  | (bytes, chunks) => .ok (bytes, { s with chunks })

/-- Fill a buffer of a size, of which a part is filled: what is filled when the buffer is full or
the source at its end. -/
def fill (s : Source) (size : Nat) (filled : List UInt8) :
    Except SystemError (List UInt8 × Source) :=
  if filled.length < size then
    match s.read (size - filled.length) with
    | .error e => .error e
    | .ok ([], s) => .ok (filled, s)
    | .ok (byte :: bytes, s) => s.fill size (filled ++ byte :: bytes)
  else .ok (filled, s)
termination_by size - filled.length
decreasing_by simp only [List.length_append, List.length_cons]; omega

/-- Read a payload of a length to its end. -/
def readPayload (s : Source) (length : Nat) : Except Failure (List UInt8 × Source) :=
  match s.fill length [] with
  | .error e => .error (if e.isUnexpectedEnd then cutPayload length else .io e)
  | .ok (payload, s) =>
    if payload.length < length then .error (cutPayload length) else .ok (payload, s)

/-- Read a packet: its payload, unless the source is at its end. -/
def readPacket (s : Source) (limit : Nat) : Except Failure (Option (List UInt8 × Source)) :=
  match s.fill headerLength [] with
  | .error e => .error (.io e)
  | .ok (a :: b :: c :: d :: _, s) => do
    let length ← checkLength (lengthOf a b c d) limit
    let read ← s.readPayload length
    .ok (some read)
  | .ok ([], _) => .ok none
  | .ok (header, _) => .error (cutHeader header.length)

theorem readChunks_flatten (room : Nat) (chunks : List (List UInt8)) :
    (readChunks room chunks).1 ++ (readChunks room chunks).2.flatten = chunks.flatten := by
  fun_induction readChunks room chunks with
  | case1 => rfl
  | case2 chunks ih => exact ih
  | case3 byte bytes chunks =>
      rw [List.flatten_cons, ← List.append_assoc, List.take_append_drop, List.flatten_cons]

section

variable {s s' : Source} {size limit : Nat} {filled bytes payload : List UInt8}

/-- Nothing is lost in a read. -/
theorem read_bytes (h : s.read size = .ok (bytes, s')) : bytes ++ s'.bytes = s.bytes := by
  have whole := readChunks_flatten size s.chunks
  unfold read at h
  split at h
  · rename_i chunks found
    rw [found] at whole
    cases broken : s.broken with
    | none =>
        rw [broken] at h
        cases h
        exact whole
    | some e =>
        rw [broken] at h
        cases h
  · rename_i found
    rw [found] at whole
    cases h
    exact whole

theorem fill_bytes (h : s.fill size filled = .ok (bytes, s')) :
    bytes ++ s'.bytes = filled ++ s.bytes := by
  fun_induction fill s size filled with
  | case1 => cases h
  | case2 s filled few s₁ found =>
      cases h
      rw [← read_bytes found, List.nil_append]
  | case3 s filled few byte bytes s₁ found ih =>
      rw [ih h, ← read_bytes found, List.append_assoc]
  | case4 =>
      cases h
      rfl

theorem readPayload_bytes (h : s.readPayload size = .ok (payload, s')) :
    payload ++ s'.bytes = s.bytes := by
  unfold readPayload at h
  split at h
  · cases h
  · rename_i found
    split at h
    · cases h
    · cases h
      exact fill_bytes found

/-- A packet that was read is no longer there. -/
theorem readPacket_bytes (h : s.readPacket limit = .ok (some (payload, s'))) :
    s'.bytes.length < s.bytes.length := by
  unfold readPacket at h
  split at h
  · cases h
  · rename_i a b c d more s₁ found
    have header := congrArg List.length (fill_bytes found)
    cases checked : checkLength (lengthOf a b c d) limit with
    | error e =>
        rw [checked] at h
        cases h
    | ok length =>
        rw [checked] at h
        change (s₁.readPayload length >>= fun read => .ok (some read)) = _ at h
        cases got : s₁.readPayload length with
        | error e =>
            rw [got] at h
            cases h
        | ok read =>
            rw [got] at h
            cases h
            have behind := congrArg List.length (readPayload_bytes got)
            simp only [List.length_append, List.length_cons, List.length_nil] at header behind
            omega
  · cases h
  · cases h

end

/-- Read packets until none is left: their payloads, and how the source ended. -/
def readAll (s : Source) (limit : Nat) : List (List UInt8) × Ending :=
  match _h : s.readPacket limit with
  | .error e => ([], .failed e)
  | .ok none => ([], .clean)
  | .ok (some (payload, s')) =>
    let (payloads, ending) := s'.readAll limit
    (payload :: payloads, ending)
termination_by s.bytes.length
decreasing_by exact readPacket_bytes _h

end Source

end RpcLink.Framing.Packet
