import Mathlib.Data.List.Forall2
import Mathlib.Data.Nat.Digits.Defs
import RpcLink.Framing.Packet

/-!
The packets of a stream of bytes, and the remainder behind the last of them. A stream has one such
division, which `split` finds, and what is appended to the stream continues its remainder.
-/

namespace RpcLink.Framing.Packet

/-! ### Headers -/

theorem lengthOf_lt (a b c d : UInt8) : lengthOf a b c d < headerRange := by
  have := a.toNat_lt
  have := b.toNat_lt
  have := c.toNat_lt
  have := d.toNat_lt
  unfold lengthOf headerRange
  omega

theorem header_lengthOf (a b c d : UInt8) : header (lengthOf a b c d) = [a, b, c, d] := by
  have := a.toNat_lt
  have := b.toNat_lt
  have := c.toNat_lt
  have := d.toNat_lt
  simp only [header, lengthOf, List.cons.injEq, and_true, ← UInt8.toNat_inj]
  simp only [UInt8.toNat_ofNat', Nat.toUInt8_eq]
  omega

/-- The length that a stream announces: its first four bytes as a number, the least one first. -/
def announced (stream : List UInt8) : Nat :=
  Nat.ofDigits 256 ((stream.take headerLength).map UInt8.toNat)

theorem announced_cons (a b c d : UInt8) (rest : List UInt8) :
    announced (a :: b :: c :: d :: rest) = lengthOf a b c d := by
  simp only [announced, headerLength, List.take_succ_cons, List.take_zero, List.map_cons,
    List.map_nil, Nat.ofDigits_cons, Nat.ofDigits_nil, lengthOf]
  omega

theorem announced_header {length : Nat} (small : length < headerRange) (rest : List UInt8) :
    announced (header length ++ rest) = length := by
  unfold headerRange at small
  rw [header, List.cons_append, List.cons_append, List.cons_append, List.cons_append,
    announced_cons]
  simp only [lengthOf, UInt8.toNat_ofNat', Nat.toUInt8_eq]
  omega

theorem announced_append {stream : List UInt8} (enough : headerLength ≤ stream.length)
    (more : List UInt8) : announced (stream ++ more) = announced stream := by
  rw [announced, announced, List.take_append_of_le_length enough]

/-! ### One packet -/

section

variable {limit : Nat} {payload bytes : List UInt8}

theorem encode_eq (payload : List UInt8) (limit : Nat) :
    encode payload limit =
      if payload.length = 0 ∨ limit < payload.length ∨ headerRange ≤ payload.length then
        .error (.frameTooLarge payload.length limit)
      else .ok (header payload.length ++ payload) := by
  unfold encode checkLength
  by_cases wrong : payload.length = 0 ∨ limit < payload.length
  · rw [if_pos wrong, if_pos (by omega)]
    rfl
  · rw [if_neg wrong]
    by_cases small : payload.length < headerRange
    · rw [if_neg (by omega)]
      exact if_pos small
    · rw [if_pos (by omega)]
      exact if_neg small

theorem encode_eq_ok_iff :
    encode payload limit = .ok bytes ↔
      0 < payload.length ∧ payload.length ≤ limit ∧ payload.length < headerRange ∧
        bytes = header payload.length ++ payload := by
  rw [encode_eq]
  split
  · simp only [reduceCtorEq, false_iff]
    omega
  · rw [Except.ok.injEq, eq_comm]
    constructor
    · exact fun same => ⟨by omega, by omega, by omega, same⟩
    · exact fun parts => parts.2.2.2

/-- A payload has no packet when it is empty or over the limit, as long as the limit is one that a
header can give. -/
theorem encode_eq_error_iff (small : limit < headerRange) {e : Failure} :
    encode payload limit = .error e ↔
      (payload = [] ∨ limit < payload.length) ∧ e = .frameTooLarge payload.length limit := by
  rw [encode_eq, ← List.length_eq_zero_iff]
  split
  · rw [Except.error.injEq, eq_comm]
    exact ⟨fun same => ⟨by omega, same⟩, fun parts => parts.2⟩
  · simp only [reduceCtorEq, false_iff]
    omega

/-- What a stream begins with can be told from its length and the length that it announces. -/
theorem head_eq (limit : Nat) (bytes : List UInt8) :
    head limit bytes =
      if bytes.length < headerLength then .short
      else if announced bytes = 0 ∨ limit < announced bytes then .unusable (announced bytes)
      else if bytes.length < headerLength + announced bytes then .short
      else .packet ((bytes.drop headerLength).take (announced bytes))
        ((bytes.drop headerLength).drop (announced bytes)) := by
  match bytes with
  | [] | [_] | [_, _] | [_, _, _] => rfl
  | a :: b :: c :: d :: rest =>
      rw [announced_cons, if_neg (by simp [headerLength])]
      unfold head
      dsimp only
      split
      · rfl
      · have same : (a :: b :: c :: d :: rest).length < headerLength + lengthOf a b c d ↔
            rest.length < lengthOf a b c d := by
          simp only [headerLength, List.length_cons]
          omega
        simp only [same]
        rfl

theorem head_eq_unusable_iff {length : Nat} :
    head limit bytes = .unusable length ↔
      headerLength ≤ bytes.length ∧ announced bytes = length ∧ (length = 0 ∨ limit < length) := by
  rw [head_eq]
  split
  · simp only [reduceCtorEq, false_iff]
    omega
  · split
    · rw [Head.unusable.injEq]
      omega
    · split
      · simp only [reduceCtorEq, false_iff]
        omega
      · simp only [reduceCtorEq, false_iff]
        omega

theorem head_eq_short_iff :
    head limit bytes = .short ↔
      bytes.length < headerLength ∨
        0 < announced bytes ∧ announced bytes ≤ limit ∧
          bytes.length < headerLength + announced bytes := by
  rw [head_eq]
  split
  · simp only [true_iff]
    omega
  · split
    · simp only [reduceCtorEq, false_iff]
      omega
    · split
      · simp only [true_iff]
        omega
      · simp only [reduceCtorEq, false_iff]
        omega

/-- A stream begins with a packet exactly when it begins with what encoding its payload gives. -/
theorem head_eq_packet_iff {rest : List UInt8} :
    head limit bytes = .packet payload rest ↔
      ∃ packet, encode payload limit = .ok packet ∧ bytes = packet ++ rest := by
  constructor
  · intro found
    match bytes with
    | [] | [_] | [_, _] | [_, _, _] => cases found
    | a :: b :: c :: d :: behind =>
        rw [head_eq, announced_cons] at found
        split at found
        · cases found
        · split at found
          · cases found
          · rename_i allowed
            split at found
            · cases found
            · rename_i enough
              obtain ⟨front, back⟩ := Head.packet.inj found
              have count : payload.length = lengthOf a b c d := by
                rw [← front, List.length_take]
                simp only [headerLength, List.length_cons] at enough
                simp only [headerLength, List.length_drop, List.length_cons]
                omega
              have small := lengthOf_lt a b c d
              refine ⟨_, encode_eq_ok_iff.mpr ⟨by omega, by omega, by omega, rfl⟩, ?_⟩
              rw [count, header_lengthOf, List.append_assoc, ← front, ← back,
                List.take_append_drop]
              rfl
  · rintro ⟨packet, coded, rfl⟩
    obtain ⟨positive, within, small, rfl⟩ := encode_eq_ok_iff.mp coded
    have size : (header payload.length ++ payload ++ rest).length =
        headerLength + (payload.length + rest.length) := by
      simp only [List.length_append, Nat.add_assoc]
      rfl
    have behind : (header payload.length ++ (payload ++ rest)).drop headerLength =
        payload ++ rest := rfl
    rw [head_eq, size, List.append_assoc, announced_header small, if_neg (by omega),
      if_neg (by omega), if_neg (by omega), behind, List.take_left, List.drop_left]

/-- A length that is not allowed stays so, whatever follows. -/
theorem head_append_of_unusable {length : Nat} (found : head limit bytes = .unusable length)
    (more : List UInt8) : head limit (bytes ++ more) = .unusable length := by
  obtain ⟨enough, value, wrong⟩ := head_eq_unusable_iff.mp found
  rw [head_eq_unusable_iff, announced_append enough, List.length_append]
  exact ⟨by omega, value, wrong⟩

/-- The beginning of a packet is the beginning of nothing else. -/
theorem head_of_beginning {packet : List UInt8} (coded : encode payload limit = .ok packet)
    (beginning : bytes <+: packet) (shorter : bytes.length < packet.length) :
    head limit bytes = .short := by
  have whole : head limit packet = .packet payload [] :=
    head_eq_packet_iff.mpr ⟨packet, coded, (List.append_nil _).symm⟩
  obtain ⟨more, rfl⟩ := beginning
  cases found : head limit bytes with
  | short => rfl
  | unusable length =>
      rw [head_append_of_unusable found] at whole
      cases whole
  | packet front rest =>
      obtain ⟨first, coded', rfl⟩ := head_eq_packet_iff.mp found
      have same : head limit (first ++ rest ++ more) = .packet front (rest ++ more) :=
        head_eq_packet_iff.mpr ⟨first, coded', List.append_assoc ..⟩
      rw [whole] at same
      obtain ⟨rfl, nothing⟩ := Head.packet.inj same
      obtain ⟨rfl, rfl⟩ := List.append_eq_nil_iff.mp nothing.symm
      simp at shorter

end

/-! ### All packets of a stream -/

/-- A stream is made of packets with these payloads, and of a remainder that begins with none. -/
structure Packets (limit : Nat) (stream : List UInt8) (payloads : List (List UInt8))
    (rest : List UInt8) : Prop where
  stream_eq : ∃ packets, List.Forall₂ (fun payload packet => encode payload limit = .ok packet)
    payloads packets ∧ stream = packets.flatten ++ rest
  of_rest : ∀ payload behind, head limit rest ≠ .packet payload behind

namespace Packets

variable {limit : Nat} {stream more rest : List UInt8} {payloads : List (List UInt8)}

theorem of_no_packet (none : ∀ payload behind, head limit stream ≠ .packet payload behind) :
    Packets limit stream [] stream :=
  ⟨⟨[], .nil, rfl⟩, none⟩

theorem cons {payload packet : List UInt8} (coded : encode payload limit = .ok packet)
    (h : Packets limit stream payloads rest) :
    Packets limit (packet ++ stream) (payload :: payloads) rest where
  stream_eq := by
    obtain ⟨packets, each, rfl⟩ := h.stream_eq
    exact ⟨packet :: packets, .cons coded each, by simp⟩
  of_rest := h.of_rest

/-- What follows a stream continues its remainder. -/
theorem append {payloads' : List (List UInt8)} {rest' : List UInt8}
    (h : Packets limit stream payloads rest) (h' : Packets limit (rest ++ more) payloads' rest') :
    Packets limit (stream ++ more) (payloads ++ payloads') rest' where
  stream_eq := by
    obtain ⟨packets, each, rfl⟩ := h.stream_eq
    obtain ⟨packets', each', shape⟩ := h'.stream_eq
    refine ⟨packets ++ packets', List.rel_append each each', ?_⟩
    rw [List.append_assoc, shape, List.flatten_append, List.append_assoc]
  of_rest := h'.of_rest

end Packets

/-- What is left of a stream with a remainder. -/
def Tail.ofRest (limit : Nat) (rest : List UInt8) : Tail :=
  match head limit rest with
  | .unusable length => .unusable length
  | _ => .short rest

theorem split_of_packet {limit : Nat} {bytes payload rest : List UInt8}
    (found : head limit bytes = .packet payload rest) :
    split limit bytes = (payload :: (split limit rest).1, (split limit rest).2) := by
  rw [split]
  split
  · rename_i found'
    rw [found] at found'
    cases found'
    rfl
  · rename_i found'
    rw [found] at found'
    cases found'
  · rename_i found'
    rw [found] at found'
    cases found'

theorem split_of_no_packet {limit : Nat} {bytes : List UInt8}
    (none : ∀ payload behind, head limit bytes ≠ .packet payload behind) :
    split limit bytes = ([], .ofRest limit bytes) := by
  rw [split, Tail.ofRest]
  split
  · rename_i found
    exact absurd found (none _ _)
  · rename_i found
    rw [found]
  · rename_i found
    rw [found]

/-- The division of a stream is the one that is computed. -/
theorem Packets.split_eq {limit : Nat} {stream rest : List UInt8} {payloads : List (List UInt8)}
    (h : Packets limit stream payloads rest) :
    split limit stream = (payloads, .ofRest limit rest) := by
  obtain ⟨⟨packets, each, rfl⟩, noPacket⟩ := h
  induction each with
  | nil => exact split_of_no_packet noPacket
  | @cons payload packet payloads packets coded each ih =>
      have found : head limit ((packet :: packets).flatten ++ rest) =
          .packet payload (packets.flatten ++ rest) :=
        head_eq_packet_iff.mpr ⟨packet, coded, by simp⟩
      rw [split_of_packet found, ih]

theorem Packets.payloads_eq {limit : Nat} {stream rest rest' : List UInt8}
    {payloads payloads' : List (List UInt8)} (h : Packets limit stream payloads rest)
    (h' : Packets limit stream payloads' rest') : payloads = payloads' :=
  congrArg Prod.fst (h.split_eq.symm.trans h'.split_eq)

/-- Payloads determine their packets. -/
theorem packets_eq {limit : Nat} {payloads packets packets' : List (List UInt8)}
    (each : List.Forall₂ (fun payload packet => encode payload limit = .ok packet) payloads packets)
    (each' : List.Forall₂ (fun payload packet => encode payload limit = .ok packet) payloads
      packets') : packets = packets' := by
  induction each generalizing packets' with
  | nil =>
      cases each'
      rfl
  | cons coded _ ih =>
      cases each' with
      | cons coded' rest' =>
          obtain rfl := Except.ok.inj (coded.symm.trans coded')
          rw [ih rest']

theorem Packets.unique {limit : Nat} {stream rest rest' : List UInt8}
    {payloads payloads' : List (List UInt8)} (h : Packets limit stream payloads rest)
    (h' : Packets limit stream payloads' rest') : payloads = payloads' ∧ rest = rest' := by
  obtain rfl := h.payloads_eq h'
  obtain ⟨packets, each, rfl⟩ := h.stream_eq
  obtain ⟨packets', each', same⟩ := h'.stream_eq
  obtain rfl := packets_eq each each'
  exact ⟨rfl, List.append_cancel_left same⟩

/-- Every stream has a division into packets. -/
theorem exists_packets (limit : Nat) (stream : List UInt8) :
    ∃ payloads rest, Packets limit stream payloads rest := by
  cases found : head limit stream with
  | packet payload behind =>
      have shorter := length_rest_lt found
      obtain ⟨packet, coded, rfl⟩ := head_eq_packet_iff.mp found
      obtain ⟨payloads, rest, h⟩ := exists_packets limit behind
      exact ⟨_, _, h.cons coded⟩
  | unusable length => exact ⟨[], stream, .of_no_packet (by simp [found])⟩
  | short => exact ⟨[], stream, .of_no_packet (by simp [found])⟩
termination_by stream.length

end RpcLink.Framing.Packet
