import RpcLink.Proofs.Framing.Packets

/-!
What a reader of packets gives, however its stream is cut into chunks, and how the stream ends.
Between two chunks the reader is determined by the remainder of the stream so far, and a chunk
continues that remainder.
-/

namespace RpcLink.Framing.Packet

/-! ### How a stream ends -/

/-- How a stream ends, given its remainder. -/
inductive Ends (limit : Nat) (rest : List UInt8) : Ending → Prop where
  | clean (empty : rest.length = 0) : Ends limit rest .clean
  | unusable (enough : headerLength ≤ rest.length)
      (wrong : announced rest = 0 ∨ limit < announced rest) :
      Ends limit rest (.failed (.frameTooLarge (announced rest) limit))
  /-- The stream ends inside a header. -/
  | cutHeader (begun : 0 < rest.length) (few : rest.length < headerLength) :
      Ends limit rest (.failed (cutHeader rest.length))
  /-- The stream ends inside a payload. -/
  | cutPayload (enough : headerLength ≤ rest.length) (positive : 0 < announced rest)
      (within : announced rest ≤ limit) (few : rest.length < headerLength + announced rest) :
      Ends limit rest (.failed (cutPayload (announced rest)))

section

variable {limit : Nat} {rest : List UInt8}

theorem ends_ofRest (noPacket : ∀ payload behind, head limit rest ≠ .packet payload behind) :
    Ends limit rest ((Tail.ofRest limit rest).ending limit none) := by
  unfold Tail.ofRest
  cases found : head limit rest with
  | packet payload behind => exact absurd found (noPacket payload behind)
  | unusable length =>
      obtain ⟨enough, rfl, wrong⟩ := head_eq_unusable_iff.mp found
      exact .unusable enough wrong
  | short =>
      have short := head_eq_short_iff.mp found
      match rest with
      | [] => exact .clean rfl
      | [_] | [_, _] | [_, _, _] => exact .cutHeader (Nat.succ_pos _) (by simp [headerLength])
      | a :: b :: c :: d :: behind =>
          have enough : headerLength ≤ (a :: b :: c :: d :: behind).length :=
            Nat.le_add_left headerLength behind.length
          obtain ⟨positive, within, few⟩ := short.resolve_left (Nat.not_lt.mpr enough)
          have ends := Ends.cutPayload enough positive within few
          rw [announced_cons] at ends
          exact ends

namespace Ends

variable {ending : Ending}

theorem clean_iff (h : Ends limit rest ending) : ending = .clean ↔ rest.length = 0 := by
  have four : headerLength = 4 := rfl
  cases h with
  | clean empty => exact ⟨fun _ => empty, fun _ => rfl⟩
  | unusable enough wrong =>
      simp only [reduceCtorEq, false_iff]
      omega
  | cutHeader begun few =>
      simp only [reduceCtorEq, false_iff]
      omega
  | cutPayload enough positive within few =>
      simp only [reduceCtorEq, false_iff]
      omega

theorem unusable_iff (h : Ends limit rest ending) {length limit' : Nat} :
    ending = .failed (.frameTooLarge length limit') ↔
      headerLength ≤ rest.length ∧ announced rest = length ∧ (length = 0 ∨ limit < length) ∧
        limit' = limit := by
  have four : headerLength = 4 := rfl
  cases h with
  | clean empty =>
      simp only [reduceCtorEq, false_iff]
      omega
  | unusable enough wrong =>
      rw [Ending.failed.injEq, Failure.frameTooLarge.injEq]
      omega
  | cutHeader begun few =>
      simp only [Packet.cutHeader, Ending.failed.injEq, reduceCtorEq, false_iff]
      omega
  | cutPayload enough positive within few =>
      simp only [Packet.cutPayload, Ending.failed.injEq, reduceCtorEq, false_iff]
      omega

theorem malformed_iff (h : Ends limit rest ending) :
    (∃ text, ending = .failed (.malformed text)) ↔
      0 < rest.length ∧ rest.length < headerLength ∨
      headerLength ≤ rest.length ∧ 0 < announced rest ∧ announced rest ≤ limit ∧
        rest.length < headerLength + announced rest := by
  have four : headerLength = 4 := rfl
  cases h with
  | clean empty =>
      simp only [reduceCtorEq, exists_false, false_iff]
      omega
  | unusable enough wrong =>
      simp only [Ending.failed.injEq, reduceCtorEq, exists_false, false_iff]
      omega
  | cutHeader begun few => exact ⟨fun _ => .inl ⟨begun, few⟩, fun _ => ⟨_, rfl⟩⟩
  | cutPayload enough positive within few =>
      exact ⟨fun _ => .inr ⟨enough, positive, within, few⟩, fun _ => ⟨_, rfl⟩⟩

/-- A stream ends in one of three ways. -/
theorem cases (h : Ends limit rest ending) :
    ending = .clean ∨ (∃ length, ending = .failed (.frameTooLarge length limit)) ∨
      ∃ text, ending = .failed (.malformed text) := by
  cases h with
  | clean empty => exact .inl rfl
  | unusable enough wrong => exact .inr (.inl ⟨_, rfl⟩)
  | cutHeader begun few => exact .inr (.inr ⟨_, rfl⟩)
  | cutPayload enough positive within few => exact .inr (.inr ⟨_, rfl⟩)

end Ends

end

/-! ### Chunks -/

namespace Reader

variable {limit : Nat} {rest rest' chunk : List UInt8} {payloads : List (List UInt8)}

/-- The reader behind a stream with a remainder. -/
def ofRest (limit : Nat) (rest : List UInt8) : Reader := { limit, tail := .ofRest limit rest }

/-- A chunk continues the remainder of the stream. -/
theorem feed_of_packets (noPacket : ∀ payload behind, head limit rest ≠ .packet payload behind)
    (h : Packets limit (rest ++ chunk) payloads rest') :
    (ofRest limit rest).feed chunk = (payloads, ofRest limit rest') := by
  cases found : head limit rest with
  | packet payload behind => exact absurd found (noPacket payload behind)
  | unusable length =>
      -- The reading ended with this length, and nothing follows.
      have found' := head_append_of_unusable found chunk
      obtain ⟨rfl, rfl⟩ := h.unique (.of_no_packet (by simp [found']))
      simp [ofRest, Tail.ofRest, found, found', feed]
  | short =>
      have state : ofRest limit rest = { limit, tail := .short rest } := by
        simp [ofRest, Tail.ofRest, found]
      rw [state]
      simp only [feed, h.split_eq]
      rfl

/-- Chunks continue the remainder of the stream. -/
theorem feedAll_of_packets {chunks : List (List UInt8)}
    (noPacket : ∀ payload behind, head limit rest ≠ .packet payload behind)
    (h : Packets limit (rest ++ chunks.flatten) payloads rest') :
    (ofRest limit rest).feedAll chunks = (payloads, ofRest limit rest') := by
  induction chunks generalizing rest payloads with
  | nil =>
      rw [List.flatten_nil, List.append_nil] at h
      obtain ⟨rfl, rfl⟩ := h.unique (.of_no_packet noPacket)
      rfl
  | cons chunk chunks ih =>
      obtain ⟨first, between, divided⟩ := exists_packets limit (rest ++ chunk)
      obtain ⟨others, last, further⟩ := exists_packets limit (between ++ chunks.flatten)
      have total := divided.append further
      rw [List.append_assoc, ← List.flatten_cons] at total
      obtain ⟨rfl, rfl⟩ := h.unique total
      simp only [feedAll, feed_of_packets noPacket divided, ih divided.of_rest further]

/-- Chunks that make up a stream are read as the packets of the stream. -/
theorem feedAll_of_stream {chunks : List (List UInt8)}
    (h : Packets limit chunks.flatten payloads rest) :
    feedAll { limit } chunks = (payloads, ofRest limit rest) := by
  have noPacket : ∀ payload behind, head limit [] ≠ .packet payload behind := by simp [head]
  exact feedAll_of_packets noPacket h

/-- However a stream is cut into chunks, it is read as packets with payloads within the limit, and
the remainder behind the last of them tells how it ends. -/
theorem feedAll_cuts_packets (limit : Nat) (chunks : List (List UInt8)) :
    ∃ payloads reader ending packets rest,
      feedAll { limit } chunks = (payloads, reader) ∧
      reader.tail.ending limit none = ending ∧
      List.Forall₂ (fun payload packet => encode payload limit = .ok packet) payloads packets ∧
      chunks.flatten = packets.flatten ++ rest ∧
      (∀ payload ∈ payloads, 1 ≤ payload.length ∧ payload.length ≤ limit) ∧
      (ending = .clean ∨ (∃ length, ending = .failed (.frameTooLarge length limit)) ∨
        ∃ text, ending = .failed (.malformed text)) ∧
      (ending = .clean ↔ rest.length = 0) ∧
      (∀ length limit', ending = .failed (.frameTooLarge length limit') ↔
        headerLength ≤ rest.length ∧ announced rest = length ∧
          (length = 0 ∨ limit < length) ∧ limit' = limit) ∧
      ((∃ text, ending = .failed (.malformed text)) ↔
        0 < rest.length ∧ rest.length < headerLength ∨
        headerLength ≤ rest.length ∧ 0 < announced rest ∧ announced rest ≤ limit ∧
          rest.length < headerLength + announced rest) ∧
      ∀ others : List (List UInt8), others.flatten = chunks.flatten →
        feedAll { limit } others = (payloads, reader) := by
  obtain ⟨payloads, rest, h⟩ := exists_packets limit chunks.flatten
  obtain ⟨packets, each, shape⟩ := h.stream_eq
  have ends := ends_ofRest h.of_rest
  refine ⟨payloads, _, _, packets, rest, feedAll_of_stream h, rfl, each, shape, ?_, ends.cases,
    ends.clean_iff, fun _ _ => ends.unusable_iff, ends.malformed_iff, fun others same => ?_⟩
  · have fits : List.Forall₂ (fun payload packet => (1 ≤ payload.length ∧ payload.length ≤ limit) ∧
        encode payload limit = .ok packet) payloads packets :=
      each.imp fun payload packet coded =>
        ⟨⟨(encode_eq_ok_iff.mp coded).1, (encode_eq_ok_iff.mp coded).2.1⟩, coded⟩
    exact ((List.forall₂_and_left _ _).mp fits).1
  · rw [← same] at h
    exact feedAll_of_stream h

end Reader

/-! ### A stream that breaks off -/

section

variable {limit : Nat} {payloads packets : List (List UInt8)} {stream rest : List UInt8}
  {count : Nat}

theorem length_flatten_take_le (packets : List (List UInt8)) {i j : Nat} (le : i ≤ j) :
    (packets.take i).flatten.length ≤ (packets.take j).flatten.length := by
  have parts := List.take_append_drop i (packets.take j)
  rw [List.take_take, Nat.min_eq_left le] at parts
  rw [← parts, List.flatten_append, List.length_append]
  exact Nat.le_add_right _ _

/-- Where a stream of packets breaks off: behind so many packets, and with the beginning of the next
one, if there is a next one. -/
structure BreaksOff (packets : List (List UInt8)) (stream : List UInt8) (count : Nat)
    (rest : List UInt8) : Prop where
  stream_eq : stream = (packets.take count).flatten ++ rest
  count_le : count ≤ packets.length
  next : rest = [] ∧ count = packets.length ∨
    ∃ packet, packets[count]? = some packet ∧ rest <+: packet ∧ rest.length < packet.length

theorem exists_breaksOff (beginning : stream <+: packets.flatten) :
    ∃ count rest, BreaksOff packets stream count rest := by
  induction packets generalizing stream with
  | nil =>
      obtain rfl := List.prefix_nil.mp beginning
      exact ⟨0, [], rfl, Nat.le_refl 0, .inl ⟨rfl, rfl⟩⟩
  | cons packet packets ih =>
      rw [List.flatten_cons] at beginning
      have first := List.prefix_append packet packets.flatten
      rcases Nat.lt_or_ge stream.length packet.length with shorter | longer
      · have begins := List.prefix_of_prefix_length_le beginning first (Nat.le_of_lt shorter)
        exact ⟨0, stream, rfl, Nat.zero_le _, .inr ⟨packet, rfl, begins, shorter⟩⟩
      · obtain ⟨more, rfl⟩ := List.prefix_of_prefix_length_le first beginning longer
        obtain ⟨count, rest, h⟩ := ih ((List.prefix_append_right_inj packet).mp beginning)
        refine ⟨count + 1, rest, ?_, Nat.succ_le_succ h.count_le, ?_⟩
        · rw [h.stream_eq]
          simp
        · simpa using h.next

namespace BreaksOff

/-- What is left is a part of a packet, or nothing. -/
theorem head_rest (h : BreaksOff packets stream count rest)
    (each : List.Forall₂ (fun payload packet => encode payload limit = .ok packet) payloads
      packets) : head limit rest = .short := by
  rcases h.next with ⟨rfl, -⟩ | ⟨packet, found, beginning, shorter⟩
  · rfl
  · obtain ⟨inside, rfl⟩ := List.getElem?_eq_some_iff.mp found
    have coded := each.get (by rw [each.length_eq]; exact inside) inside
    exact head_of_beginning coded beginning shorter

theorem divided (h : BreaksOff packets stream count rest)
    (each : List.Forall₂ (fun payload packet => encode payload limit = .ok packet) payloads
      packets) : Packets limit stream (payloads.take count) rest where
  stream_eq := ⟨packets.take count, List.forall₂_take count each, h.stream_eq⟩
  of_rest payload behind := by
    rw [h.head_rest each]
    simp

/-- The packets before the end of the stream are those that are complete. -/
theorem lt_count_iff (h : BreaksOff packets stream count rest) {i : Nat}
    (inside : i < packets.length) :
    i < count ↔ (packets.take (i + 1)).flatten.length ≤ stream.length := by
  rw [h.stream_eq, List.length_append]
  constructor
  · intro before
    exact Nat.le_trans (length_flatten_take_le packets before) (Nat.le_add_right _ _)
  · intro fits
    by_contra after
    rcases h.next with ⟨-, all⟩ | ⟨packet, found, -, shorter⟩
    · omega
    · have le : count + 1 ≤ i + 1 := by omega
      have longer := length_flatten_take_le packets le
      rw [List.take_add_one, found, List.flatten_append, List.length_append] at longer
      simp only [Option.toList_some, List.flatten_singleton] at longer
      omega

/-- The stream ends between two packets exactly if nothing of the next one is there. -/
theorem boundary_iff (h : BreaksOff packets stream count rest) :
    (∃ i, stream = (packets.take i).flatten) ↔ rest.length = 0 := by
  have total := congrArg List.length h.stream_eq
  rw [List.length_append] at total
  constructor
  · rintro ⟨i, boundary⟩
    rw [boundary] at total
    rcases Nat.lt_or_ge count i with after | before
    · rcases h.next with ⟨rfl, -⟩ | ⟨packet, found, -, shorter⟩
      · rfl
      · obtain ⟨inside, -⟩ := List.getElem?_eq_some_iff.mp found
        have fits := length_flatten_take_le packets after
        rw [← boundary] at fits
        exact absurd ((h.lt_count_iff inside).mpr fits) (Nat.lt_irrefl count)
    · have := length_flatten_take_le packets before
      omega
  · intro empty
    rw [List.length_eq_zero_iff] at empty
    exact ⟨count, by rw [h.stream_eq, empty, List.append_nil]⟩

end BreaksOff

end

namespace Reader

/-- Payloads within the limit can be encoded, and others cannot. A stream of packets that breaks off
anywhere, cut into chunks anyhow, gives the payloads of the packets that are complete; it ends as it
should between two packets, and is malformed inside one. -/
theorem feedAll_of_truncated_packets {limit : Nat} (small : limit < headerRange)
    {payloads : List (List UInt8)}
    (fits : ∀ payload ∈ payloads, 1 ≤ payload.length ∧ payload.length ≤ limit) :
    (∃ packets,
      List.Forall₂ (fun payload packet => encode payload limit = .ok packet) payloads packets ∧
      ∀ chunks : List (List UInt8), chunks.flatten <+: packets.flatten →
        ∃ count reader ending, feedAll { limit } chunks = (payloads.take count, reader) ∧
          reader.tail.ending limit none = ending ∧ count ≤ payloads.length ∧
          (∀ i, i < payloads.length →
            (i < count ↔ (packets.take (i + 1)).flatten.length ≤ chunks.flatten.length)) ∧
          ((∃ i, chunks.flatten = (packets.take i).flatten) → ending = .clean) ∧
          ((¬ ∃ i, chunks.flatten = (packets.take i).flatten) →
            ∃ text, ending = .failed (.malformed text))) ∧
    ∀ payload e, encode payload limit = .error e ↔
      (payload = [] ∨ limit < payload.length) ∧ e = .frameTooLarge payload.length limit := by
  refine ⟨?_, fun payload e => encode_eq_error_iff small⟩
  have each : List.Forall₂ (fun payload packet => encode payload limit = .ok packet) payloads
      (payloads.map fun payload => header payload.length ++ payload) := by
    refine List.forall₂_map_right_iff.mpr (List.forall₂_same.mpr fun payload member => ?_)
    obtain ⟨positive, within⟩ := fits payload member
    exact encode_eq_ok_iff.mpr ⟨positive, within, Nat.lt_of_le_of_lt within small, rfl⟩
  refine ⟨_, each, fun chunks beginning => ?_⟩
  obtain ⟨count, rest, breaks⟩ := exists_breaksOff beginning
  have divided := breaks.divided each
  have ends := ends_ofRest divided.of_rest
  refine ⟨count, _, _, feedAll_of_stream divided, rfl, ?_, ?_, ?_, ?_⟩
  · rw [each.length_eq]
    exact breaks.count_le
  · intro i inside
    rw [each.length_eq] at inside
    exact breaks.lt_count_iff inside
  · intro boundary
    exact ends.clean_iff.mpr (breaks.boundary_iff.mp boundary)
  · intro inside
    rcases ends.cases with clean | ⟨length, unusable⟩ | malformed
    · exact absurd (breaks.boundary_iff.mpr (ends.clean_iff.mp clean)) inside
    · obtain ⟨enough, value, wrong, -⟩ := ends.unusable_iff.mp unusable
      have found := head_eq_unusable_iff.mpr ⟨enough, value, wrong⟩
      rw [breaks.head_rest each] at found
      cases found
    · exact malformed

/-- Two packets, cut off inside the header of the second one and read in three chunks. -/
theorem feedAll_of_packets_cut_in_second_header :
    let payloads : List (List UInt8) := [[7, 8], [9]]
    let chunks : List (List UInt8) := [[2], [0, 0, 0, 7], [8, 1, 0]]
    (5 < headerRange ∧ ∀ payload ∈ payloads, 1 ≤ payload.length ∧ payload.length ≤ 5) ∧
      ∃ reader text, feedAll { limit := 5 } chunks = ([[7, 8]], reader) ∧
        reader.tail.ending 5 none = .failed (.malformed text) := by
  intro payloads chunks
  have small : 5 < headerRange := by decide
  have fits : ∀ payload ∈ payloads, 1 ≤ payload.length ∧ payload.length ≤ 5 := by decide
  refine ⟨⟨small, fits⟩, ?_⟩
  obtain ⟨⟨packets, each, reads⟩, -⟩ := feedAll_of_truncated_packets small fits
  obtain rfl := packets_eq each (.cons rfl (.cons rfl .nil))
  obtain ⟨count, reader, ending, fed, rfl, -, complete, -, malformed⟩ :=
    reads chunks ⟨[0, 0, 9], rfl⟩
  have first : 0 < count := (complete 0 (by decide)).mpr (by decide)
  have second : ¬ 1 < count := fun before => absurd ((complete 1 (by decide)).mp before) (by decide)
  obtain rfl : count = 1 := by omega
  obtain ⟨text, failed⟩ := malformed (by
    rintro ⟨i, boundary⟩
    match i with
    | 0 | 1 | i + 2 => simp [chunks, header] at boundary)
  exact ⟨reader, text, fed, failed⟩

end Reader

end RpcLink.Framing.Packet
