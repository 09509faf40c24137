import RpcLink.Proofs.Json.Decode
import RpcLink.Proofs.Json.Sorting
import RpcLink.Wire.Response

/-!
Reading responses. A frame is taken by the names of its fields, but what it says is decided by
their values, and an error that is `null` decodes to none. So a frame with nothing but such an
error is taken although it answers nothing, and it is refused when it comes by again.
-/

namespace RpcLink

namespace RpcError

section

variable {fields : Fields} {e : RpcError}

/-- What an object says that decodes to an error. -/
theorem parts_of_ofFields (read : ofFields fields = .ok e) :
    Json.required "code" Json.asInt64 fields = .ok e.code ∧
      Json.required "message" Json.asString fields = .ok e.message ∧
      e.data = (fields.get? "data").filter (· ≠ .null) := by
  obtain ⟨_, -, read⟩ := Json.bind_eq_ok.mp read
  obtain ⟨_, code, read⟩ := Json.bind_eq_ok.mp read
  obtain ⟨_, message, read⟩ := Json.bind_eq_ok.mp read
  obtain ⟨_, data, read⟩ := Json.bind_eq_ok.mp read
  cases read
  cases (Json.optional_asAny _ _).symm.trans data
  exact ⟨code, message, rfl⟩

theorem ofFields_of_get? (distinct : (fields.map Prod.fst).Nodup)
    (code : fields.get? "code" = some (.ofInt64 e.code))
    (message : fields.get? "message" = some (.string e.message))
    (data : e.data = (fields.get? "data").filter (· ≠ .null)) : ofFields fields = .ok e := by
  have code : Json.required "code" Json.asInt64 fields = .ok e.code :=
    Json.required_eq_ok.mpr ⟨_, code, Json.asInt64_ofInt64 e.code⟩
  have message : Json.required "message" Json.asString fields = .ok e.message :=
    Json.required_eq_ok.mpr ⟨_, message, rfl⟩
  have checks : Json.checkFields [("code", Json.checked Json.asInt64),
      ("message", Json.checked Json.asString)] fields = .ok () := by
    refine Json.checkFields_of_get? distinct fun d member v found => ?_
    rcases List.mem_pair.mp member with rfl | rfl
    · exact Json.checked_of_required code found
    · exact Json.checked_of_required message found
  simp only [ofFields, checks, code, message, Json.optional_asAny, ← data, bind, Except.bind, pure,
    Except.pure]

end

/-- The data of an error that was read are part of what was read, unless that is `null`. -/
theorem data_of_decode {v : Json} {e : RpcError} (read : decode v = .ok e) :
    ∃ part : Option Json, e.data = part.filter (· ≠ .null) ∧
      (v.Ordered → ∀ data, part = some data → data.Ordered) := by
  cases v with
  | object fields => exact ⟨_, (parts_of_ofFields read).2.2, fun ordered _ => ordered.of_get?⟩
  | array items =>
      obtain ⟨_, read, rest⟩ := Json.bind_eq_ok.mp read
      obtain ⟨_, -, rest⟩ := Json.bind_eq_ok.mp rest
      cases rest
      obtain ⟨_, -, read⟩ := Json.bind_eq_ok.mp read
      obtain ⟨_, -, read⟩ := Json.bind_eq_ok.mp read
      obtain ⟨_, data, read⟩ := Json.bind_eq_ok.mp read
      cases read
      cases (Json.itemOr_asAny _ _ _).symm.trans data
      exact ⟨_, rfl, fun ordered _ => ordered.of_getElem?⟩
  | _ => cases read

theorem data_ne_null_of_decode {v : Json} {e : RpcError} (read : decode v = .ok e) :
    e.data ≠ some .null := by
  obtain ⟨part, same, -⟩ := data_of_decode read
  intro null
  simpa using (Option.filter_eq_some_iff.mp (same.symm.trans null)).2

theorem data_ordered_of_decode {v : Json} {e : RpcError} (read : decode v = .ok e)
    (ordered : v.Ordered) {data : Json} (here : e.data = some data) : data.Ordered := by
  obtain ⟨part, same, parts⟩ := data_of_decode read
  exact parts ordered data (Option.filter_eq_some_iff.mp (same.symm.trans here)).1

/-- An error is read back as it was, unless it has data that are `null`. -/
theorem decode_toJson {e : RpcError} (present : e.data ≠ some .null) :
    decode e.toJson = .ok e := by
  have kept := Json.filter_ne_null present
  obtain ⟨code, message, data⟩ := e
  cases data <;> exact ofFields_of_get? (by simp) rfl rfl kept.symm

theorem toJson_sorted {e : RpcError} (ordered : ∀ data, e.data = some data → data.Ordered) :
    e.toJson.sorted =
      .object ([("code", .ofInt64 e.code)] ++ (e.data.map fun data => ("data", data)).toList ++
        [("message", .string e.message)]) := by
  obtain ⟨code, message, data⟩ := e
  cases data with
  | none => rfl
  | some data =>
      have same : data.sorted = data := Json.sorted_of_ordered (ordered data rfl)
      change Json.object [_, ("data", data.sorted), _] = _
      rw [same]
      rfl

theorem decode_toJson_sorted {e : RpcError} (present : e.data ≠ some .null)
    (ordered : ∀ data, e.data = some data → data.Ordered) : decode e.toJson.sorted = .ok e := by
  have kept := Json.filter_ne_null present
  rw [toJson_sorted ordered]
  obtain ⟨code, message, data⟩ := e
  cases data <;> exact ofFields_of_get? (by simp) rfl rfl kept.symm

end RpcError

namespace Response

/-- Whether a response says anything of its call. -/
def Answers (r : Response) : Prop := r.result.isSome ∨ r.error.isSome

/-- The values in a response have their fields in order. -/
structure Ordered (r : Response) : Prop where
  result : ∀ v, r.result = some v → v.Ordered
  data : ∀ e v, r.error = some e → e.data = some v → v.Ordered

section

variable {fields : Fields} {r : Response}

theorem parts_of_ofFields (read : ofFields fields = .ok r) :
    r.result = fields.get? "result" ∧
      Json.optional "error" (Json.asOption RpcError.decode) none fields = .ok r.error := by
  obtain ⟨_, -, read⟩ := Json.bind_eq_ok.mp read
  obtain ⟨_, -, read⟩ := Json.bind_eq_ok.mp read
  obtain ⟨_, -, read⟩ := Json.bind_eq_ok.mp read
  obtain ⟨_, error, read⟩ := Json.bind_eq_ok.mp read
  cases read
  exact ⟨rfl, error⟩

theorem asOption_idJson (id : Option UInt64) :
    Json.asOption Json.asUInt64 (idJson id) = .ok id := by
  cases id with
  | none => rfl
  | some n => exact Json.asOption_eq_some.mpr ⟨nofun, Json.asUInt64_ofUInt64 n⟩

theorem ofFields_of_get? (distinct : (fields.map Prod.fst).Nodup)
    (jsonrpc : fields.get? "jsonrpc" = some (.string r.jsonrpc))
    (id : fields.get? "id" = some (idJson r.id)) (result : fields.get? "result" = r.result)
    (error : Json.optional "error" (Json.asOption RpcError.decode) none fields = .ok r.error) :
    ofFields fields = .ok r := by
  have jsonrpc : Json.optional "jsonrpc" Json.asString protocolVersion fields = .ok r.jsonrpc :=
    Json.optional_eq_ok.mpr (.inr ⟨_, jsonrpc, rfl⟩)
  have id : Json.optional "id" (Json.asOption Json.asUInt64) none fields = .ok r.id :=
    Json.optional_eq_ok.mpr (.inr ⟨_, id, asOption_idJson r.id⟩)
  have checks : Json.checkFields [("error", Json.checked (Json.asOption RpcError.decode)),
      ("id", Json.checked (Json.asOption Json.asUInt64)), ("jsonrpc", Json.checked Json.asString)]
      fields = .ok () := by
    refine Json.checkFields_of_get? distinct fun d member v found => ?_
    simp only [List.mem_cons, List.not_mem_nil, or_false] at member
    rcases member with rfl | rfl | rfl
    · exact Json.checked_of_optional error found
    · exact Json.checked_of_optional id found
    · exact Json.checked_of_optional jsonrpc found
  simp only [ofFields, checks, jsonrpc, id, result, error, bind, Except.bind, pure, Except.pure]

end

/-- What a frame is that is taken, by the names of its fields and by their values. -/
theorem ofFrame_eq_ok {v : Json} {r : Response} : ofFrame v = .ok r ↔
    ∃ fields : Fields, v = .object fields ∧ (fields.has "result" ∨ fields.has "error") ∧
      ofFields fields = .ok r := by
  constructor
  · intro read
    cases v with
    | object fields =>
        rw [ofFrame] at read
        split at read
        · next named =>
            refine ⟨fields, rfl, by simpa using named, ?_⟩
            change (ofFields fields).mapError _ = _ at read
            cases decoded : ofFields fields with
            | error e => rw [decoded] at read; cases read
            | ok s => rw [decoded] at read; cases read; rfl
        · cases read
    | _ => cases read
  · rintro ⟨fields, rfl, named, read⟩
    rw [ofFrame, if_pos (by simpa using named)]
    change (ofFields fields).mapError _ = _
    rw [read]
    rfl

/-- What a response says of its call is what its fields say, an error that is `null` apart. -/
theorem answers_iff {fields : Fields} {r : Response} (read : ofFields fields = .ok r) :
    r.Answers ↔ (fields.get? "result").isSome ∨
      ∃ v, fields.get? "error" = some v ∧ v ≠ .null := by
  obtain ⟨result, error⟩ := parts_of_ofFields read
  rw [Answers, result]
  refine or_congr_right ?_
  rcases Json.optional_eq_ok.mp error with ⟨missing, same⟩ | ⟨v, found, decodes⟩
  · simp [← same, missing]
  · rw [found]
    cases decoded : r.error with
    | none => simp [Json.asOption_eq_none.mp (decoded ▸ decodes)]
    | some e => simp [(Json.asOption_eq_some.mp (decoded ▸ decodes)).1]

/-- An object that decodes and has no error that is `null` is taken as a frame if it answers. -/
theorem ofFrame_iff_answers {fields : Fields} {r : Response} (read : ofFields fields = .ok r)
    (error : fields.get? "error" ≠ some .null) : ofFrame (.object fields) = .ok r ↔ r.Answers := by
  rw [answers_iff read, ofFrame_eq_ok]
  constructor
  · rintro ⟨_, same, named, -⟩
    cases same
    refine named.imp_right fun here => ?_
    obtain ⟨v, found⟩ := Option.isSome_iff_exists.mp here
    exact ⟨v, found, fun null => error (null ▸ found)⟩
  · intro answers
    refine ⟨fields, rfl, answers.imp_right fun ⟨v, found, _⟩ => ?_, read⟩
    exact Option.isSome_iff_exists.mpr ⟨v, found⟩

/-- What an error is that was read. -/
theorem decode_of_error {fields : Fields} {r : Response} (read : ofFields fields = .ok r)
    {e : RpcError} (failed : r.error = some e) :
    ∃ v, fields.get? "error" = some v ∧ RpcError.decode v = .ok e := by
  rcases Json.optional_eq_ok.mp (parts_of_ofFields read).2 with ⟨-, same⟩ | ⟨v, found, decodes⟩
  · cases same.trans failed
  · exact ⟨v, found, (Json.asOption_eq_some.mp (failed ▸ decodes)).2⟩

section

variable {r : Response}

theorem decode_toJson (present : ∀ e, r.error = some e → e.data ≠ some .null) :
    decode r.toJson = .ok r := by
  obtain ⟨jsonrpc, id, result, error⟩ := r
  cases error with
  | none => cases result <;> exact ofFields_of_get? (by simp) rfl rfl rfl rfl
  | some e =>
      have decodes : Json.asOption RpcError.decode e.toJson = .ok (some e) :=
        Json.asOption_eq_some.mpr ⟨nofun, RpcError.decode_toJson (present e rfl)⟩
      cases result <;> exact ofFields_of_get? (by simp) rfl rfl rfl decodes

theorem toJson_sorted (ordered : ∀ v, r.result = some v → v.Ordered) :
    r.toJson.sorted =
      .object ((r.error.map fun e => ("error", e.toJson.sorted)).toList ++
        [("id", idJson r.id), ("jsonrpc", .string r.jsonrpc)] ++
        (r.result.map fun v => ("result", v)).toList) := by
  obtain ⟨jsonrpc, id, result, error⟩ := r
  have number : (idJson id).sorted = idJson id := by cases id <;> rfl
  cases result with
  | none =>
      cases error <;>
      · simp only [toJson, Option.map, Option.toList, List.append_nil, List.cons_append,
          List.nil_append, Json.sorted, Json.sortedFields_eq_map, List.map, number]
        rfl
  | some v =>
      have same : v.sorted = v := Json.sorted_of_ordered (ordered v rfl)
      cases error <;>
      · simp only [toJson, Option.map, Option.toList, List.append_nil, List.cons_append,
          List.nil_append, Json.sorted, Json.sortedFields_eq_map, List.map, number, same]
        rfl

theorem decode_toJson_sorted (present : ∀ e, r.error = some e → e.data ≠ some .null)
    (ordered : r.Ordered) : decode r.toJson.sorted = .ok r := by
  rw [toJson_sorted ordered.result]
  obtain ⟨jsonrpc, id, result, error⟩ := r
  cases error with
  | none => cases result <;> exact ofFields_of_get? (by simp) rfl rfl rfl rfl
  | some e =>
      have data := fun v => ordered.data e v rfl
      have shape : e.toJson.sorted ≠ .null := by
        rw [RpcError.toJson_sorted data]
        nofun
      have decodes : Json.asOption RpcError.decode e.toJson.sorted = .ok (some e) :=
        Json.asOption_eq_some.mpr ⟨shape, RpcError.decode_toJson_sorted (present e rfl) data⟩
      cases result <;> exact ofFields_of_get? (by simp) rfl rfl rfl decodes

/-- A response that was written is taken again if it answers. -/
theorem ofFrame_toJson (present : ∀ e, r.error = some e → e.data ≠ some .null) :
    ofFrame r.toJson = .ok r ↔ r.Answers := by
  have decodes := decode_toJson present
  obtain ⟨jsonrpc, id, result, error⟩ := r
  refine ofFrame_iff_answers decodes ?_
  cases result <;> cases error <;> simp [Fields.get?, List.lookup_cons, RpcError.toJson]

theorem ofFrame_toJson_sorted (present : ∀ e, r.error = some e → e.data ≠ some .null)
    (ordered : r.Ordered) : ofFrame r.toJson.sorted = .ok r ↔ r.Answers := by
  have decodes := decode_toJson_sorted present ordered
  rw [toJson_sorted ordered.result] at decodes ⊢
  refine ofFrame_iff_answers decodes ?_
  cases failed : r.error with
  | none => cases r.result <;> simp [Fields.get?, List.lookup_cons]
  | some e => simp [Fields.get?, RpcError.toJson_sorted fun v => ordered.data e v failed]

end

/-- What was read from values with their fields in order has its fields in order. -/
theorem ordered_of_ofFields {fields : Fields} {r : Response} (read : ofFields fields = .ok r)
    (ordered : (Json.object fields).Ordered) : r.Ordered where
  result _ found := ordered.of_get? ((parts_of_ofFields read).1.symm.trans found)
  data _ _ failed here := by
    obtain ⟨v, found, decodes⟩ := decode_of_error read failed
    exact RpcError.data_ordered_of_decode decodes (ordered.of_get? found) here

/-- A frame that is taken answers its call, unless it has no result and its error is `null`. The
response that it gives is taken again, written as it is or with its fields in order, if it answers;
so then what is relayed is understood. -/
theorem taken_frame_answers {v : Json} {r : Response} (read : ofFrame v = .ok r) :
    (∃ fields : Fields, v = .object fields ∧
      (r.Answers ↔ ¬ (fields.get? "result" = none ∧ fields.get? "error" = some .null))) ∧
    (ofFrame r.toJson = .ok r ↔ r.Answers) ∧
    (v.Ordered → (ofFrame r.toJson.sorted = .ok r ↔ r.Answers)) := by
  obtain ⟨fields, rfl, named, decodes⟩ := ofFrame_eq_ok.mp read
  have present : ∀ e, r.error = some e → e.data ≠ some .null := by
    intro e failed
    obtain ⟨w, -, decoded⟩ := decode_of_error decodes failed
    exact RpcError.data_ne_null_of_decode decoded
  refine ⟨⟨fields, rfl, ?_⟩, ofFrame_toJson present, fun ordered => ?_⟩
  · rw [answers_iff decodes]
    constructor
    · rintro (result | ⟨w, found, real⟩) ⟨noResult, null⟩
      · rw [noResult] at result
        cases result
      · cases found.symm.trans null
        exact real rfl
    · intro said
      rcases named with result | error
      · exact .inl result
      · obtain ⟨w, found⟩ := Option.isSome_iff_exists.mp error
        by_cases null : w = .null
        · exact .inl (Option.isSome_iff_ne_none.mpr fun none => said ⟨none, null ▸ found⟩)
        · exact .inr ⟨w, found, null⟩
  · exact ofFrame_toJson_sorted present (ordered_of_ofFields decodes ordered)

/-- A result that is `null` answers, and its response is taken again. -/
theorem null_result_answers :
    ofFrame (.object [("id", .ofUInt64 1), ("jsonrpc", .string "2.0"), ("result", .null)]) =
        .ok (success 1 .null) ∧
      (success 1 .null).Answers ∧ ofFrame (success 1 .null).toJson = .ok (success 1 .null) := by
  have read : ofFrame (.object [("id", .ofUInt64 1), ("jsonrpc", .string "2.0"),
      ("result", .null)]) = .ok (success 1 .null) := rfl
  obtain ⟨-, again, -⟩ := taken_frame_answers read
  exact ⟨read, .inl rfl, again.mpr (.inl rfl)⟩

/-- An error that is `null` does not, but the call gets `null` for a result. -/
theorem null_error_answers_nothing :
    ofFrame (.object [("error", .null), ("id", .ofUInt64 1), ("jsonrpc", .string "2.0")]) =
        .ok { id := some 1 } ∧
      ¬ ({ id := some 1 } : Response).Answers ∧
      ({ id := some 1 } : Response).outcome = .ok .null ∧
      ofFrame ({ id := some 1 } : Response).toJson.sorted =
        .error (.malformed "envelope carries neither result nor error") := by
  refine ⟨rfl, ?_, rfl, rfl⟩
  rintro (result | error)
  · cases result
  · cases error

end Response

end RpcLink
