import RpcLink.Proofs.Framing.LineBuffer
import RpcLink.Proofs.Json.ReadBack
import RpcLink.Proofs.Wire.Request

/-!
Requests written one to a line and read back. The text of a request is one line, for a control in it
is escaped, and no blank at its ends can be trimmed away, for it stands between braces. So a buffer
whose limit each of the texts fits reports each request as one message, however the lines are cut
into chunks.
-/

namespace RpcLink

open Text

/-! ### The text of a request -/

namespace Request

theorem integral_toJson {r : Request} (integral : r.params.Integral) : r.toJson.Integral := by
  refine .object fun f member => ?_
  simp only [List.mem_cons, List.not_mem_nil, or_false] at member
  rcases member with rfl | rfl | rfl | rfl
  · exact .string _
  · exact .integer _ _
  · exact .string _
  · exact integral

theorem depth_toJson (r : Request) : r.toJson.depth = r.params.depth + 1 := by
  simp [toJson, Json.depth, Json.depth.depthFields, Json.ofUInt64]

/-- No line ends inside a request. -/
theorem lineFeed_notMem_bytes {r : Request} (integral : r.params.Integral) :
    Framing.lineFeed ∉ r.toJson.bytes := by
  intro member
  exact absurd (Json.visible_bytes (integral_toJson integral) _ member) (by decide)

end Request

namespace Framing

theorem trimChars_between {first last : Char} (left : isBlank first = false)
    (right : isBlank last = false) (cs : List Char) :
    trimChars (first :: (cs ++ [last])) = first :: (cs ++ [last]) := by
  unfold trimChars
  rw [List.dropWhile_cons_of_neg (by simp [left]), ← List.cons_append, List.reverse_append,
    List.reverse_singleton, List.singleton_append, List.dropWhile_cons_of_neg (by simp [right])]
  simp

/-- A line that an object was written on holds that object. -/
theorem ofLine_object {fields : Fields} (integral : (Json.object fields).Integral)
    (shallow : (Json.object fields).depth ≤ Json.Read.maxNesting) :
    Frame.ofLine (Json.object fields).bytes = some (.message (Json.object fields).sorted) := by
  have text : (Json.object fields).chars =
      '\x7b' :: (Json.chars.fieldChars fields ++ ['\x7d']) := by
    rw [Json.chars]
    rfl
  have whole : trimChars (Json.object fields).chars = (Json.object fields).chars := by
    rw [text]
    exact trimChars_between rfl rfl _
  have shown : Shows (Json.object fields).byteLength (Json.object fields).bytes
      [.message (Json.object fields).sorted] := by
    refine .message (Nat.le_refl _) rfl ?_ ?_
    · rw [whole, text]
      exact List.cons_ne_nil _ _
    · rw [whole]
      exact Json.parseBytes_bytes integral shallow
  exact Option.toList_eq_singleton_iff.mp (shown.eq_of_fits (Nat.le_refl _)).symm

theorem ofLine_request {r : Request} (integral : r.params.Integral)
    (shallow : r.params.depth ≤ 126) :
    Frame.ofLine r.toJson.bytes = some (.message r.toJson.sorted) := by
  have deep : r.toJson.depth ≤ Json.Read.maxNesting := by
    rw [r.depth_toJson]
    exact Nat.succ_le_succ shallow
  exact ofLine_object (Request.integral_toJson integral) deep

/-- Lines within the limit are reported as whole lines are. -/
theorem flatten_of_fits {limit : Nat} {lines : List (List UInt8)} {parts : List (List Frame)}
    (each : List.Forall₂ (Shows limit) lines parts) (fits : ∀ line ∈ lines, line.length ≤ limit) :
    parts.flatten = lines.filterMap Frame.ofLine := by
  rw [List.filterMap_eq_flatMap_toList]
  induction each with
  | nil => rfl
  | cons first _ ih =>
      rw [List.flatten_cons, List.flatMap_cons, first.eq_of_fits (fits _ List.mem_cons_self),
        ih fun line member => fits line (List.mem_cons_of_mem _ member)]

namespace LineBuffer

/-- Lines within the limit, however they are cut into chunks, are reported one by one, and nothing
is held behind the last of them. -/
theorem feedAll_of_fits {limit : Nat} {lines chunks : List (List UInt8)}
    (stream : chunks.flatten = lines.flatMap (· ++ [lineFeed]))
    (noEnd : ∀ line ∈ lines, lineFeed ∉ line) (fits : ∀ line ∈ lines, line.length ≤ limit) :
    feedAll { limit } chunks = (lines.filterMap Frame.ofLine, { limit }) := by
  obtain ⟨parts, fed, each⟩ := feedAll_of_whole_lines limit stream noEnd
  rw [fed, flatten_of_fits each fits]

/-- Requests are written one to a line, and however the lines are cut into chunks, a buffer whose
limit each of them fits reports one message for each and holds nothing afterwards. The message is
the request with its fields in order of their keys, and it is read as that request. -/
theorem feedAll_request_lines {rs : List Request} {limit : Nat} {chunks : List (List UInt8)}
    (integral : ∀ r ∈ rs, r.params.Integral) (shallow : ∀ r ∈ rs, r.params.depth ≤ 126)
    (fits : ∀ r ∈ rs, r.toJson.byteLength ≤ limit)
    (stream : chunks.flatten = rs.flatMap Request.line) :
    (∀ r ∈ rs, r.line.count lineFeed = 1 ∧ r.line.getLast? = some lineFeed) ∧
      feedAll { limit } chunks = (rs.map fun r => .message r.toJson.sorted, { limit }) ∧
      ∀ r ∈ rs, Request.decode r.toJson.sorted = .ok { r with params := r.params.sorted } ∧
        (r.params.Ordered → Request.decode r.toJson.sorted = .ok r) := by
  have noEnd : ∀ r ∈ rs, lineFeed ∉ r.toJson.bytes :=
    fun r member => Request.lineFeed_notMem_bytes (integral r member)
  refine ⟨fun r member => ⟨?_, ?_⟩, ?_, fun r _ => ⟨r.decode_toJson_sorted, fun ordered => ?_⟩⟩
  · rw [Request.line, List.count_append, List.count_eq_zero.mpr (noEnd r member)]
    rfl
  · exact List.getLast?_concat
  · have lines : chunks.flatten =
        (rs.map fun r => r.toJson.bytes).flatMap (· ++ [lineFeed]) := by
      rw [stream, List.flatMap_map]
      rfl
    have read : ∀ r ∈ rs, Frame.ofLine r.toJson.bytes = some (.message r.toJson.sorted) :=
      fun r member => ofLine_request (integral r member) (shallow r member)
    have messages : (rs.map fun r => r.toJson.bytes).filterMap Frame.ofLine =
        rs.map fun r => .message r.toJson.sorted := by
      rw [List.filterMap_map]
      exact List.filterMap_eq_map_iff_forall_eq_some.mpr read
    rw [feedAll_of_fits lines (List.forall_mem_map.mpr noEnd) (List.forall_mem_map.mpr fits),
      messages]
  · rw [Request.decode_toJson_sorted, Json.sorted_of_ordered ordered]

/-- A line feed, a quote and a blank are read back, though the bytes of the blank are cut apart. -/
theorem feedAll_quoted_lines :
    let r : Request := { id := 1, method := "\n\"", params := .array [.string "\u2028", .null] }
    let s : Request := { id := 2, method := "é", params := .null }
    let chunks : List (List UInt8) :=
      [Utf8.ofString
          "\x7b\"jsonrpc\":\"2.0\",\"id\":1,\"method\":\"\\n\\\"\",\"params\":[\"" ++ [0xE2, 0x80],
        0xA8 :: Utf8.ofString
          "\",null]\x7d\n\x7b\"jsonrpc\":\"2.0\",\"id\":2,\"method\":\"é\",\"params\":null\x7d\n"]
    (∀ q ∈ [r, s], q.params.Integral) ∧ (∀ q ∈ [r, s], q.params.depth ≤ 126) ∧
      (∀ q ∈ [r, s], q.toJson.byteLength ≤ 64) ∧ chunks.flatten = [r, s].flatMap Request.line ∧
      feedAll { limit := 64 } chunks =
        ([.message r.toJson.sorted, .message s.toJson.sorted], { limit := 64 }) ∧
      Request.decode r.toJson.sorted = .ok r ∧ Request.decode s.toJson.sorted = .ok s := by
  intro r s chunks
  have integral : ∀ q ∈ [r, s], q.params.Integral := by
    have items : (Json.array [.string "\u2028", .null]).Integral :=
      .array (List.forall_mem_cons.mpr ⟨.string _, List.forall_mem_singleton.mpr .null⟩)
    exact List.forall_mem_cons.mpr ⟨items, List.forall_mem_singleton.mpr .null⟩
  have ordered : r.params.Ordered :=
    .array (List.forall_mem_cons.mpr ⟨.string _, List.forall_mem_singleton.mpr .null⟩)
  have shallow : ∀ q ∈ [r, s], q.params.depth ≤ 126 := by decide
  have fits : ∀ q ∈ [r, s], q.toJson.byteLength ≤ 64 := by decide +kernel
  have stream : chunks.flatten = [r, s].flatMap Request.line := by decide +kernel
  obtain ⟨-, fed, read⟩ := feedAll_request_lines integral shallow fits stream
  obtain ⟨first, second⟩ := List.forall_mem_cons.mp read
  exact ⟨integral, shallow, fits, stream, fed, first.2 ordered,
    (List.forall_mem_singleton.mp second).2 .null⟩

end LineBuffer

end Framing

end RpcLink
