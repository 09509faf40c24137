import RpcLink.Proofs.Wire.Response
import RpcLink.Wire.Relay

/-!
What becomes of an envelope that is read and written again, as it is when a response is relayed.
All that a server may send comes back, but for the data of an error where they are `null`.
-/

namespace RpcLink

namespace RpcError

/-- The fields of an error object: a code, a message and perhaps data, and nothing else. -/
structure Describes (said : Fields) : Prop where
  known : ∀ f ∈ said, f.1 ∈ ["code", "data", "message"]
  code : ∃ n, said.get? "code" = some (.ofInt64 n)
  message : ∃ s, said.get? "message" = some (.string s)

/-- Fields without data that are `null`. -/
def withoutNullData (said : Fields) : Fields :=
  said.filter fun f => ¬ (f.1 = "data" ∧ f.2 = .null)

/-- The fields of an error object in order. -/
def spelled (code : Int64) (message : String) (data : Option Json) : Fields :=
  [("code", .ofInt64 code)] ++ (data.map fun v => ("data", v)).toList ++
    [("message", .string message)]

theorem Describes.shape {said : Fields} (describes : Describes said)
    (ordered : (Json.object said).Ordered) :
    ∃ code message data, said = spelled code message data := by
  obtain ⟨n, code⟩ := describes.code
  obtain ⟨s, message⟩ := describes.message
  refine ⟨n, s, said.get? "data", ?_⟩
  cases ordered with
  | object keys each =>
      have listed := Fields.eq_listing (by decide) keys describes.known
      simpa only [spelled, Fields.listing_cons, Fields.listing_nil, code, message, Option.map_some,
        Option.toList_some, List.append_assoc, List.append_nil] using listed

/-- An error object is read and written again without data that are `null`. -/
theorem Describes.read_back {said : Fields} (describes : Describes said)
    (ordered : (Json.object said).Ordered) :
    ∃ e, decode (.object said) = .ok e ∧ e.toJson.sorted = .object (withoutNullData said) ∧
      (withoutNullData said = said ↔ said.get? "data" ≠ some .null) := by
  obtain ⟨code, message, data, rfl⟩ := describes.shape ordered
  have read : decode (.object (spelled code message data)) =
      .ok ⟨code, message, data.filter (· ≠ .null)⟩ := by
    refine ofFields_of_get? ordered.distinct ?_ ?_ ?_ <;> cases data <;> rfl
  refine ⟨_, read, ?_, ?_⟩
  · rw [toJson_sorted fun v => data_ordered_of_decode read ordered]
    cases data with
    | none => rfl
    | some v =>
        by_cases null : v = .null <;>
          simp [spelled, withoutNullData, Option.filter_some, null]
  · cases data with
    | none => simp [spelled, withoutNullData, Fields.get?, List.lookup_cons]
    | some v =>
        by_cases null : v = .null <;>
          simp [spelled, withoutNullData, Fields.get?, List.lookup_cons, null]

end RpcError

namespace Response

/-- The fields of an envelope: a version, a number or `null` for the call, and a result of any kind
or an error or both, and nothing else. -/
structure Envelope (fields : Fields) : Prop where
  known : ∀ f ∈ fields, f.1 ∈ ["error", "id", "jsonrpc", "result"]
  jsonrpc : ∃ s, fields.get? "jsonrpc" = some (.string s)
  id : fields.get? "id" = some .null ∨ ∃ n, fields.get? "id" = some (.ofUInt64 n)
  answer : (fields.get? "result").isSome ∨ (fields.get? "error").isSome
  error : ∀ v, fields.get? "error" = some v → ∃ said, v = .object said ∧ RpcError.Describes said

/-- Whether the error of an envelope has data that are `null`. -/
def HasNullData (fields : Fields) : Prop :=
  ∃ said : Fields, fields.get? "error" = some (.object said) ∧ said.get? "data" = some .null

/-- An error without data that are `null`. -/
def bareError : Json → Json
  | .object said => .object (RpcError.withoutNullData said)
  | other => other

/-- The fields of an envelope without data of its error that are `null`. -/
def withoutNullData (fields : Fields) : Fields :=
  fields.map fun f => if f.1 = "error" then (f.1, bareError f.2) else f

/-- The fields of an envelope in order. -/
def spelled (jsonrpc : String) (id : Option UInt64) (result : Option Json)
    (error : Option Fields) : Fields :=
  (error.map fun said => ("error", .object said)).toList ++
    [("id", idJson id), ("jsonrpc", .string jsonrpc)] ++ (result.map fun v => ("result", v)).toList

theorem Envelope.shape {fields : Fields} (envelope : Envelope fields)
    (ordered : (Json.object fields).Ordered) :
    ∃ jsonrpc id result error, fields = spelled jsonrpc id result error ∧
      ∀ said, error = some said → RpcError.Describes said := by
  obtain ⟨s, jsonrpc⟩ := envelope.jsonrpc
  obtain ⟨id, numbered⟩ : ∃ id, fields.get? "id" = some (idJson id) := by
    rcases envelope.id with null | ⟨n, number⟩
    · exact ⟨none, null⟩
    · exact ⟨some n, number⟩
  cases ordered with
  | object keys each =>
      have listed := Fields.eq_listing (by decide) keys envelope.known
      simp only [Fields.listing_cons, Fields.listing_nil, jsonrpc, numbered, Option.map_some,
        Option.toList_some, List.append_nil] at listed
      cases error : fields.get? "error" with
      | none =>
          refine ⟨s, id, fields.get? "result", none, ?_, nofun⟩
          simpa [spelled, error] using listed
      | some v =>
          obtain ⟨said, rfl, describes⟩ := envelope.error v error
          refine ⟨s, id, fields.get? "result", some said, ?_, ?_⟩
          · simpa [spelled, error] using listed
          · rintro _ ⟨⟩
            exact describes

theorem withoutNullData_spelled (jsonrpc : String) (id : Option UInt64) (result : Option Json)
    (error : Option Fields) : withoutNullData (spelled jsonrpc id result error) =
      spelled jsonrpc id result (error.map RpcError.withoutNullData) := by
  cases error <;> cases result <;> simp [withoutNullData, spelled, bareError]

/-- What an envelope says of an error is read and written again without data that are `null`. -/
theorem error_read_back {error : Option Fields}
    (describes : ∀ said, error = some said → RpcError.Describes said)
    (ordered : ∀ said, error = some said → (Json.object said).Ordered) :
    ∃ e : Option RpcError,
      (∀ fields : Fields, fields.get? "error" = error.map .object →
        Json.optional "error" (Json.asOption RpcError.decode) none fields = .ok e) ∧
      e.map (·.toJson.sorted) = error.map fun said => .object (RpcError.withoutNullData said) := by
  cases error with
  | none => exact ⟨none, fun fields missing => Json.optional_eq_ok.mpr (.inl ⟨missing, rfl⟩), rfl⟩
  | some said =>
      obtain ⟨e, read, written, -⟩ := (describes said rfl).read_back (ordered said rfl)
      refine ⟨some e, fun fields found => Json.optional_eq_ok.mpr (.inr ⟨_, found, ?_⟩), ?_⟩
      · exact Json.asOption_eq_some.mpr ⟨nofun, read⟩
      · exact congrArg some written

/-- An envelope is taken, and what is written of its response, and relayed of it, is the envelope
without data of its error that are `null`. So nothing else is lost. -/
theorem envelope_read_back {fields : Fields} (envelope : Envelope fields)
    (ordered : (Json.object fields).Ordered) :
    ∃ r, ofFrame (.object fields) = .ok r ∧
      r.toJson.sorted = .object (withoutNullData fields) ∧
      (Relay.Reply.success r).toJson.sorted =
        .object [("ok", .bool true), ("response", .object (withoutNullData fields))] ∧
      (withoutNullData fields = fields ↔ ¬ HasNullData fields) := by
  obtain ⟨jsonrpc, id, result, error, rfl, describes⟩ := envelope.shape ordered
  have found : (spelled jsonrpc id result error).get? "error" = error.map .object := by
    cases error <;> cases result <;> rfl
  obtain ⟨e, decodes, written⟩ := error_read_back describes fun said here =>
    ordered.of_get? (by rw [found, here]; rfl)
  have read : ofFields (spelled jsonrpc id result error) = .ok ⟨jsonrpc, id, result, e⟩ := by
    refine ofFields_of_get? ordered.distinct ?_ ?_ ?_ (decodes _ found) <;>
      cases error <;> cases result <;> rfl
  have written : (⟨jsonrpc, id, result, e⟩ : Response).toJson.sorted =
      .object (withoutNullData (spelled jsonrpc id result error)) := by
    rw [toJson_sorted (ordered_of_ofFields read ordered).result, withoutNullData_spelled, spelled]
    cases e <;> cases error <;> simp_all
  refine ⟨_, ofFrame_eq_ok.mpr ⟨_, rfl, envelope.answer, read⟩, written, ?_, ?_⟩
  · rw [← written]
    rfl
  · rw [withoutNullData_spelled, HasNullData, found]
    cases error with
    | none => simp
    | some said =>
        obtain ⟨-, -, -, kept⟩ := (describes said rfl).read_back (ordered.of_get? found)
        simp [spelled, kept]

/-- An envelope with a result that is `null`, and an error besides, comes back whole. -/
theorem null_result_read_back :
    let said := RpcError.spelled (-32000) "m" (some (.array [.null]))
    let fields := spelled "2.0" none (some .null) (some said)
    Envelope fields ∧ (Json.object fields).Ordered ∧ ¬ HasNullData fields ∧
      ∃ r, ofFrame (.object fields) = .ok r ∧ r.toJson.sorted = .object fields := by
  intro said fields
  have envelope : Envelope fields :=
    { known := by simp [fields, spelled]
      jsonrpc := ⟨_, rfl⟩
      id := .inl rfl
      answer := .inl rfl
      error := by
        rintro _ ⟨⟩
        exact ⟨_, rfl, by simp [said, RpcError.spelled], ⟨_, rfl⟩, ⟨_, rfl⟩⟩ }
  have ordered : (Json.object fields).Ordered := by
    have data : (Json.array [.null]).Ordered := .array (by simp [Json.Ordered.null])
    have error : (Json.object said).Ordered :=
      .object (by decide) (by simp [said, RpcError.spelled, data, Json.ofInt64, Json.Ordered.number,
        Json.Ordered.string])
    exact .object (by decide)
      (by simp [fields, spelled, idJson, error, Json.Ordered.null, Json.Ordered.string])
  obtain ⟨r, read, written, -, whole⟩ := envelope_read_back envelope ordered
  exact ⟨envelope, ordered, whole.mp rfl, r, read, written⟩

/-- One with an error whose data are `null` comes back without them. -/
theorem null_data_lost :
    Envelope (spelled "2.0" (some 1) none (some (RpcError.spelled (-32000) "m" (some .null)))) ∧
      ∃ r, ofFrame (.object (spelled "2.0" (some 1) none
          (some (RpcError.spelled (-32000) "m" (some .null))))) = .ok r ∧
        r.toJson.sorted =
          .object (spelled "2.0" (some 1) none (some (RpcError.spelled (-32000) "m" none))) ∧
        r.toJson.sorted ≠ .object (spelled "2.0" (some 1) none
          (some (RpcError.spelled (-32000) "m" (some .null)))) := by
  refine ⟨⟨by simp [spelled], ⟨_, rfl⟩, .inr ⟨1, rfl⟩, .inr rfl, ?_⟩,
    ⟨"2.0", some 1, none, some ⟨-32000, "m", none⟩⟩, rfl, rfl, ?_⟩
  · rintro _ ⟨⟩
    exact ⟨_, rfl, by simp [RpcError.spelled], ⟨_, rfl⟩, ⟨_, rfl⟩⟩
  · change Json.object (spelled "2.0" (some 1) none (some (RpcError.spelled _ _ none))) ≠ _
    simp [spelled, RpcError.spelled]

end Response

end RpcLink
