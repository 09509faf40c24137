import RpcLink.Framing.PacketSource
import RpcLink.Proofs.Framing.PacketReader

/-!
Packets that are read on demand are the packets that a reader gives which is fed the same chunks.
Filling a buffer takes from a source what its bytes begin with, whatever each single read gives, so
that a packet is read where one stands in the bytes.
-/

namespace RpcLink.Framing.Packet.Source

variable {s : Source} {limit size room : Nat}

/-! ### Reads -/

/-- What a read gives: some of the bytes that are left, or at the end nothing, or the error with
which the source breaks off. -/
inductive Reads (s : Source) (room : Nat) : Except SystemError (List UInt8 × Source) → Prop where
  | given {byte : UInt8} {bytes : List UInt8} {s' : Source}
      (fits : (byte :: bytes).length ≤ room) (stream : byte :: bytes ++ s'.bytes = s.bytes)
      (same : s'.broken = s.broken) : Reads s room (.ok (byte :: bytes, s'))
  | ended {s' : Source} (done : s.bytes = []) (whole : s.broken = none) :
      Reads s room (.ok ([], s'))
  | broken {e : SystemError} (done : s.bytes = []) (breaks : s.broken = some e) :
      Reads s room (.error e)

theorem readChunks_eq_nil {chunks : List (List UInt8)} (positive : 0 < room)
    (nothing : (readChunks room chunks).1 = []) : chunks.flatten = [] := by
  fun_induction readChunks room chunks with
  | case1 => rfl
  | case2 chunks ih => exact ih nothing
  | case3 byte bytes chunks =>
      rcases List.take_eq_nil_iff.mp nothing with full | empty
      · omega
      · cases empty

theorem readChunks_length_le (room : Nat) (chunks : List (List UInt8)) :
    (readChunks room chunks).1.length ≤ room := by
  fun_induction readChunks room chunks with
  | case1 => exact Nat.zero_le room
  | case2 chunks ih => exact ih
  | case3 byte bytes chunks => exact List.length_take_le room (byte :: bytes)

theorem read_reads (s : Source) (positive : 0 < room) : Reads s room (s.read room) := by
  have fits := readChunks_length_le room s.chunks
  have whole := readChunks_flatten room s.chunks
  unfold read
  split
  · rename_i chunks found
    have done : s.bytes = [] := readChunks_eq_nil positive (by rw [found])
    cases broken : s.broken with
    | none => exact .ended done broken
    | some e => exact .broken done broken
  · rename_i bytes chunks something found
    rw [found] at fits whole
    obtain ⟨byte, more, rfl⟩ := List.exists_cons_of_ne_nil something
    exact .given fits whole rfl

/-! ### Buffers -/

/-- A buffer that the source can fill holds what the bytes begin with. -/
theorem fill_of_enough {filled : List UInt8} (fits : filled.length ≤ size)
    (enough : size ≤ (filled ++ s.bytes).length) :
    ∃ s', s.fill size filled = .ok ((filled ++ s.bytes).take size, s') ∧
      s'.bytes = (filled ++ s.bytes).drop size ∧ s'.broken = s.broken := by
  -- While there is room, there are bytes to read.
  have left : ∀ {s : Source} {filled : List UInt8}, filled.length < size →
      size ≤ (filled ++ s.bytes).length → s.bytes ≠ [] := by
    intro s filled few enough nothing
    rw [nothing, List.append_nil] at enough
    omega
  fun_induction fill s size filled with
  | case1 s filled few e found =>
      have reads := s.read_reads (Nat.sub_pos_of_lt few)
      rw [found] at reads
      cases reads with
      | broken done breaks => exact absurd done (left few enough)
  | case2 s filled few s₁ found =>
      have reads := s.read_reads (Nat.sub_pos_of_lt few)
      rw [found] at reads
      cases reads with
      | ended done whole => exact absurd done (left few enough)
  | case3 s filled few byte bytes s₁ found ih =>
      have reads := s.read_reads (Nat.sub_pos_of_lt few)
      rw [found] at reads
      cases reads with
      | given short stream same =>
          rw [List.append_assoc, stream, same] at ih
          refine ih ?_ enough
          rw [List.length_append]
          omega
  | case4 s filled full =>
      obtain rfl : filled.length = size := by omega
      exact ⟨s, by rw [List.take_left], by rw [List.drop_left], rfl⟩

/-- A buffer that the source cannot fill holds all that was left. -/
theorem fill_of_few {filled : List UInt8} (few : (filled ++ s.bytes).length < size) :
    ∃ s', s.fill size filled = s.broken.elim (.ok (filled ++ s.bytes, s')) .error := by
  fun_induction fill s size filled with
  | case1 s filled room e found =>
      have reads := s.read_reads (Nat.sub_pos_of_lt room)
      rw [found] at reads
      cases reads with
      | broken done breaks =>
          rw [breaks]
          exact ⟨s, rfl⟩
  | case2 s filled room s₁ found =>
      have reads := s.read_reads (Nat.sub_pos_of_lt room)
      rw [found] at reads
      cases reads with
      | ended done whole =>
          rw [done, whole, List.append_nil]
          exact ⟨s₁, rfl⟩
  | case3 s filled room byte bytes s₁ found ih =>
      have reads := s.read_reads (Nat.sub_pos_of_lt room)
      rw [found] at reads
      cases reads with
      | given short stream same =>
          rw [List.append_assoc, stream, same] at ih
          exact ih few
  | case4 s filled full =>
      rw [List.length_append] at few
      omega

/-! ### Packets -/

theorem readPayload_of_enough (enough : size ≤ s.bytes.length) :
    ∃ s', s.readPayload size = .ok (s.bytes.take size, s') ∧ s'.bytes = s.bytes.drop size ∧
      s'.broken = s.broken := by
  have fits : ([] : List UInt8).length ≤ size := Nat.zero_le size
  obtain ⟨s', filled, facts⟩ := fill_of_enough fits enough
  refine ⟨s', ?_, facts⟩
  rw [readPayload, filled]
  exact if_neg (by rw [List.nil_append, List.length_take]; omega)

theorem readPayload_of_few (few : s.bytes.length < size) :
    s.readPayload size = .error (s.broken.elim (cutPayload size) fun e =>
      if e.isUnexpectedEnd then cutPayload size else .io e) := by
  have short : ([] ++ s.bytes).length < size := few
  obtain ⟨s', filled⟩ := fill_of_few short
  rw [readPayload, filled]
  cases s.broken with
  | none => exact if_pos few
  | some e => rfl

theorem exists_header {bytes : List UInt8} (enough : headerLength ≤ bytes.length) :
    ∃ a b c d rest, bytes = a :: b :: c :: d :: rest := by
  obtain _ | ⟨a, _ | ⟨b, _ | ⟨c, _ | ⟨d, rest⟩⟩⟩⟩ := bytes
  case cons.cons.cons.cons => exact ⟨a, b, c, d, rest, rfl⟩
  all_goals simp [headerLength] at enough

/-- A header that the source can fill, and the length that it gives. -/
theorem readPacket_of_header (limit : Nat) {a b c d : UInt8} {rest : List UInt8}
    (begins : s.bytes = a :: b :: c :: d :: rest) :
    ∃ s₁ : Source, s₁.bytes = rest ∧ s₁.broken = s.broken ∧
      s.readPacket limit = (do
        let length ← checkLength (lengthOf a b c d) limit
        let read ← s₁.readPayload length
        .ok (some read)) := by
  have enough : headerLength ≤ ([] ++ s.bytes).length := by simp [begins, headerLength]
  obtain ⟨s₁, filled, behind, broken⟩ := fill_of_enough (Nat.zero_le headerLength) enough
  rw [begins] at filled behind
  refine ⟨s₁, behind, broken, ?_⟩
  rw [readPacket, filled]
  rfl

/-- Where a packet stands in the bytes, it is read. -/
theorem readPacket_of_packet {payload behind : List UInt8}
    (found : head limit s.bytes = .packet payload behind) :
    ∃ s', s.readPacket limit = .ok (some (payload, s')) ∧ s'.bytes = behind ∧
      s'.broken = s.broken := by
  obtain ⟨packet, coded, begins⟩ := head_eq_packet_iff.mp found
  obtain ⟨positive, within, small, rfl⟩ := encode_eq_ok_iff.mp coded
  rw [List.append_assoc] at begins
  have value := announced_header small (payload ++ behind)
  rw [header, List.cons_append, List.cons_append, List.cons_append, List.cons_append,
    announced_cons] at value
  obtain ⟨s₁, rest, broken, read⟩ := readPacket_of_header limit begins
  have enough : payload.length ≤ s₁.bytes.length := by
    rw [rest]
    simp
  obtain ⟨s', took, left, broken'⟩ := readPayload_of_enough enough
  have whole : s₁.bytes = payload ++ behind := rest
  rw [whole, List.take_left] at took
  rw [whole, List.drop_left] at left
  refine ⟨s', ?_, left, broken'.trans broken⟩
  rw [read, value, checkLength, if_neg (by omega)]
  show (s₁.readPayload payload.length >>= fun read => .ok (some read)) = _
  rw [took]
  rfl

theorem readAll_of_error {e : Failure} (read : s.readPacket limit = .error e) :
    s.readAll limit = ([], .failed e) := by
  rw [readAll]
  split
  · rename_i other
    cases read.symm.trans other
    rfl
  · rename_i other
    cases read.symm.trans other
  · rename_i other
    cases read.symm.trans other

theorem readAll_of_none (read : s.readPacket limit = .ok none) :
    s.readAll limit = ([], .clean) := by
  rw [readAll]
  split
  · rename_i other
    cases read.symm.trans other
  · rfl
  · rename_i other
    cases read.symm.trans other

theorem readAll_of_some {payload : List UInt8} {s' : Source}
    (read : s.readPacket limit = .ok (some (payload, s'))) :
    s.readAll limit = (payload :: (s'.readAll limit).1, (s'.readAll limit).2) := by
  rw [readAll]
  split
  · rename_i other
    cases read.symm.trans other
  · rename_i other
    cases read.symm.trans other
  · rename_i other
    cases read.symm.trans other
    rfl

/-- A source with fewer bytes than a header has ends there. -/
theorem readAll_of_few (few : s.bytes.length < headerLength) :
    s.readAll limit = ([], (Tail.short s.bytes).ending limit s.broken) := by
  have short : ([] ++ s.bytes).length < headerLength := few
  obtain ⟨s', filled⟩ := fill_of_few short
  rw [List.nil_append] at filled
  cases broken : s.broken with
  | none =>
      rw [broken] at filled
      match begins : s.bytes with
      | [] => exact readAll_of_none (by rw [readPacket, filled, begins]; rfl)
      | [_] | [_, _] | [_, _, _] => exact readAll_of_error (by rw [readPacket, filled, begins]; rfl)
      | _ :: _ :: _ :: _ :: _ =>
          rw [begins] at few
          simp only [List.length_cons, headerLength] at few
          omega
  | some e =>
      rw [broken] at filled
      have read : s.readPacket limit = .error (.io e) := by
        rw [readPacket, filled]
        rfl
      match begins : s.bytes with
      | [] | [_] | [_, _] | [_, _, _] => exact readAll_of_error read
      | _ :: _ :: _ :: _ :: _ =>
          rw [begins] at few
          simp only [List.length_cons, headerLength] at few
          omega

/-- Where no packet stands, the source ends as the bytes tell. -/
theorem readAll_of_no_packet
    (noPacket : ∀ payload behind, head limit s.bytes ≠ .packet payload behind) :
    s.readAll limit = ([], (Tail.ofRest limit s.bytes).ending limit s.broken) := by
  by_cases few : s.bytes.length < headerLength
  · rw [readAll_of_few few, Tail.ofRest, head_eq, if_pos few]
  · obtain ⟨a, b, c, d, rest, begins⟩ := exists_header (Nat.le_of_not_lt few)
    obtain ⟨s₁, behind, broken, read⟩ := readPacket_of_header limit begins
    cases found : head limit s.bytes with
    | packet payload behind => exact absurd found (noPacket payload behind)
    | unusable length =>
        obtain ⟨-, value, wrong⟩ := head_eq_unusable_iff.mp found
        rw [begins, announced_cons] at value
        rw [value, checkLength, if_pos wrong] at read
        rw [readAll_of_error read, Tail.ofRest, found]
        rfl
    | short =>
        obtain ⟨positive, within, short⟩ := (head_eq_short_iff.mp found).resolve_left few
        rw [begins, announced_cons] at positive within short
        have cut : s₁.bytes.length < lengthOf a b c d := by
          rw [behind]
          simp only [List.length_cons, headerLength] at short
          omega
        rw [checkLength, if_neg (by omega)] at read
        change _ = (s₁.readPayload _ >>= fun read => .ok (some read)) at read
        rw [readPayload_of_few cut, broken] at read
        rw [readAll_of_error read, Tail.ofRest, found, begins]
        cases s.broken <;> rfl

theorem readAll_of_packets {payloads : List (List UInt8)} {rest : List UInt8}
    (h : Packets limit s.bytes payloads rest) :
    s.readAll limit = (payloads, (Tail.ofRest limit rest).ending limit s.broken) := by
  obtain ⟨⟨packets, each, shape⟩, noPacket⟩ := h
  induction each generalizing s with
  | nil =>
      obtain rfl : s.bytes = rest := shape
      exact readAll_of_no_packet noPacket
  | @cons payload packet payloads packets coded each ih =>
      have found : head limit s.bytes = .packet payload (packets.flatten ++ rest) :=
        head_eq_packet_iff.mpr ⟨packet, coded, by simpa using shape⟩
      obtain ⟨s', read, behind, broken⟩ := readPacket_of_packet found
      have others := ih behind
      rw [broken] at others
      rw [readAll_of_some read, others]

/-- However the bytes come, a source gives the packets that a reader gives which is fed the same
chunks, and ends as the stream of the reader does that stops there or breaks off. -/
theorem readAll_eq_feedAll (s : Source) (limit : Nat) :
    s.readAll limit =
      ((Reader.feedAll { limit } s.chunks).1,
        (Reader.feedAll { limit } s.chunks).2.tail.ending limit s.broken) := by
  obtain ⟨payloads, rest, h⟩ := exists_packets limit s.bytes
  rw [readAll_of_packets h, Reader.feedAll_of_stream h]
  rfl

end RpcLink.Framing.Packet.Source
