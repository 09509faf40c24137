import RpcLink.Proofs.Wire.Response

/-!
The grammar of responses. A frame is taken if it is an object with a result or an error whose
known fields are of their kinds; every other field is passed over. What stands in the fields is
then what the response holds, and whatever else comes is malformed.
-/

namespace RpcLink

namespace Fields

/-- Whatever stands under a key is of a kind. -/
def Each (fields : Fields) (key : String) (kind : Json → Prop) : Prop :=
  ∀ v, (key, v) ∈ fields → kind v

/-- A field under one key says nothing of what is found under another. -/
theorem get?_insert {before behind : Fields} {key other : String} {w : Json}
    (differ : key ≠ other) :
    get? (before ++ (other, w) :: behind) key = get? (before ++ behind) key := by
  induction before with
  | nil => rw [List.nil_append, get?_cons, if_neg differ, List.nil_append]
  | cons f before ih => rw [List.cons_append, List.cons_append, get?_cons, get?_cons, ih]

end Fields

namespace Json

/-- A field that has no decoder is passed over wherever it stands. -/
theorem checkFields_insert {decoders : List (String × Decoder Unit)} {before behind : Fields}
    {key : String} {w : Json} (unknown : decoders.lookup key = none) :
    checkFields decoders (before ++ (key, w) :: behind) =
      checkFields decoders (before ++ behind) := by
  induction before with
  | nil => rw [List.nil_append, checkFields, unknown, List.nil_append]
  | cons f before ih =>
      rw [List.cons_append, List.cons_append, checkFields, checkFields, ih]

section

variable {α : Type} {name : String} {decode : Decoder α} {fields : Fields}

/-- What decodes as an option is `null` or decodes. -/
theorem exists_asOption {v : Json} :
    (∃ x, asOption decode v = .ok x) ↔ v = .null ∨ ∃ x, decode v = .ok x := by
  by_cases absent : v = .null
  · simp [absent, asOption]
  · rw [asOption_of_ne_null absent]
    cases decode v <;> simp [Except.map, absent]

theorem exists_optional (absent : α) (each : fields.Each name fun v => ∃ x, decode v = .ok x) :
    ∃ x, optional name decode absent fields = .ok x := by
  cases found : fields.get? name with
  | none => exact ⟨absent, optional_eq_ok.mpr (.inl ⟨found, rfl⟩)⟩
  | some v =>
      obtain ⟨x, decodes⟩ := each v (Fields.mem_of_get? found)
      exact ⟨x, optional_eq_ok.mpr (.inr ⟨v, found, decodes⟩)⟩

variable {x : Option α}

/-- An optional field gives nothing where it is missing or `null`. -/
theorem optional_eq_none (read : optional name (asOption decode) none fields = .ok x) :
    x = none ↔ fields.get? name = none ∨ fields.get? name = some .null := by
  rcases optional_eq_ok.mp read with ⟨missing, same⟩ | ⟨v, found, decodes⟩
  · simp [← same, missing]
  · rw [found]
    cases x with
    | none => simp [asOption_eq_none.mp decodes]
    | some y => simp [(asOption_eq_some.mp decodes).1]

/-- It gives something where something is found that decodes, `null` apart. -/
theorem optional_eq_some (read : optional name (asOption decode) none fields = .ok x) {y : α} :
    x = some y ↔ ∃ v, fields.get? name = some v ∧ v ≠ .null ∧ decode v = .ok y := by
  rcases optional_eq_ok.mp read with ⟨missing, same⟩ | ⟨v, found, decodes⟩
  · simp [← same, missing]
  · constructor
    · rintro rfl
      exact ⟨v, found, asOption_eq_some.mp decodes⟩
    · rintro ⟨w, here, real⟩
      cases found.symm.trans here
      exact Except.ok.inj (decodes.symm.trans (asOption_eq_some.mpr real))

end

end Json

namespace RpcError

/-- The values that spell an error: an object with a code and a message, or an array of them,
perhaps with data behind. Data that are `null` are none. -/
inductive Spelled (e : RpcError) : Json → Prop
  | object {fields : Fields}
      (codes : fields.Each "code" fun v => ∃ code : Int64, v = .ofInt64 code)
      (messages : fields.Each "message" fun v => ∃ message, v = .string message)
      (code : fields.get? "code" = some (.ofInt64 e.code))
      (message : fields.get? "message" = some (.string e.message))
      (data : e.data = (fields.get? "data").filter (· ≠ .null)) : Spelled e (.object fields)
  | pair (data : e.data = none) : Spelled e (.array [.ofInt64 e.code, .string e.message])
  | triple {v : Json} (data : e.data = (some v).filter (· ≠ .null)) :
      Spelled e (.array [.ofInt64 e.code, .string e.message, v])

theorem ofFields_eq_ok_iff {fields : Fields} {e : RpcError} :
    ofFields fields = .ok e ↔ e.Spelled (.object fields) := by
  have checks : Json.checkFields [("code", Json.checked Json.asInt64),
      ("message", Json.checked Json.asString)] fields = .ok () ↔
        (fields.Each "code" fun v => ∃ code : Int64, v = .ofInt64 code) ∧
          fields.Each "message" fun v => ∃ message, v = .string message := by
    rw [Json.checkFields_eq_ok (by decide)]
    simp only [List.forall_mem_cons, List.not_mem_nil, false_imp_iff, implies_true, and_true,
      Json.checked_eq_ok, Json.asInt64_eq_ok, Json.asString_eq_ok, Fields.Each]
  constructor
  · intro read
    obtain ⟨_, checked, -⟩ := Json.bind_eq_ok.mp read
    obtain ⟨codes, messages⟩ := checks.mp checked
    obtain ⟨code, message, data⟩ := parts_of_ofFields read
    obtain ⟨_, code, spelled⟩ := Json.required_eq_ok.mp code
    cases Json.asInt64_eq_ok.mp spelled
    obtain ⟨_, message, spelled⟩ := Json.required_eq_ok.mp message
    cases Json.asString_eq_ok.mp spelled
    exact .object codes messages code message data
  · rintro (⟨codes, messages, code, message, data⟩ | _ | _)
    have code : Json.required "code" Json.asInt64 fields = .ok e.code :=
      Json.required_eq_ok.mpr ⟨_, code, Json.asInt64_ofInt64 e.code⟩
    have message : Json.required "message" Json.asString fields = .ok e.message :=
      Json.required_eq_ok.mpr ⟨_, message, rfl⟩
    simp only [ofFields, checks.mpr ⟨codes, messages⟩, code, message, Json.optional_asAny, ← data,
      bind, Except.bind, pure, Except.pure]

theorem item_eq_ok {α : Type} {place : Nat} {decode : Json.Decoder α} {items : List Json} {x : α} :
    shape.item place decode items = .ok x ↔ ∃ v, items[place]? = some v ∧ decode v = .ok x := by
  unfold Json.Shape.item
  cases items[place]? <;> simp

theorem atMost_eq_ok {items : List Json} : shape.atMost items = .ok () ↔ items.length ≤ 3 := by
  unfold Json.Shape.atMost
  change (if 3 < items.length then _ else _) = _ ↔ _
  split <;> simp <;> omega

/-- A code and a message are read as an error with the data behind them. -/
theorem ofItems_of_data {e : RpcError} {rest : List Json}
    (data : e.data = (rest[0]?).filter (· ≠ .null)) :
    ofItems (.ofInt64 e.code :: .string e.message :: rest) = .ok e := by
  have code : shape.item 0 Json.asInt64 (.ofInt64 e.code :: .string e.message :: rest) =
      .ok e.code := item_eq_ok.mpr ⟨_, rfl, Json.asInt64_ofInt64 e.code⟩
  have message : shape.item 1 Json.asString (.ofInt64 e.code :: .string e.message :: rest) =
      .ok e.message := item_eq_ok.mpr ⟨_, rfl, rfl⟩
  simp only [ofItems, code, message, Json.itemOr_asAny, List.getElem?_cons_succ, ← data, bind,
    Except.bind, pure, Except.pure]

theorem ofItems_eq_ok_iff {items : List Json} {e : RpcError} :
    (ofItems items = .ok e ∧ items.length ≤ 3) ↔ e.Spelled (.array items) := by
  constructor
  · rintro ⟨read, few⟩
    obtain ⟨_, code, read⟩ := Json.bind_eq_ok.mp read
    obtain ⟨_, message, read⟩ := Json.bind_eq_ok.mp read
    obtain ⟨_, data, read⟩ := Json.bind_eq_ok.mp read
    cases read
    cases (Json.itemOr_asAny _ _ _).symm.trans data
    obtain ⟨_, first, spelled⟩ := item_eq_ok.mp code
    cases Json.asInt64_eq_ok.mp spelled
    obtain ⟨_, second, spelled⟩ := item_eq_ok.mp message
    cases Json.asString_eq_ok.mp spelled
    match items, few with
    | [_, _], _ =>
        cases first
        cases second
        exact .pair rfl
    | [_, _, _], _ =>
        cases first
        cases second
        exact .triple rfl
  · rintro (_ | data | data)
    · exact ⟨ofItems_of_data data, by simp⟩
    · exact ⟨ofItems_of_data data, by simp⟩

/-- What is read as an error is what spells it. -/
theorem decode_eq_ok_iff {v : Json} {e : RpcError} : decode v = .ok e ↔ e.Spelled v := by
  cases v with
  | object fields => exact ofFields_eq_ok_iff
  | array items =>
      rw [← ofItems_eq_ok_iff]
      refine Json.bind_eq_ok.trans ⟨?_, ?_⟩
      · rintro ⟨_, read, rest⟩
        obtain ⟨_, few, rest⟩ := Json.bind_eq_ok.mp rest
        cases rest
        exact ⟨read, atMost_eq_ok.mp few⟩
      · rintro ⟨read, few⟩
        exact ⟨e, read, Json.bind_eq_ok.mpr ⟨(), atMost_eq_ok.mpr few, rfl⟩⟩
  | _ => exact ⟨nofun, nofun⟩

end RpcError

namespace Response

/-- The fields of a frame that is taken. -/
structure Grammatical (fields : Fields) : Prop where
  answer : fields.has "result" ∨ fields.has "error"
  jsonrpc : fields.Each "jsonrpc" fun v => ∃ version, v = .string version
  id : fields.Each "id" fun v => v = .null ∨ ∃ n : UInt64, v = .ofUInt64 n
  error : fields.Each "error" fun v => v = .null ∨ ∃ e : RpcError, e.Spelled v

/-- The response that the fields of a frame stand for. -/
structure Means (fields : Fields) (r : Response) : Prop where
  jsonrpc : fields.get? "jsonrpc" = some (.string r.jsonrpc) ∨
    fields.get? "jsonrpc" = none ∧ r.jsonrpc = "2.0"
  id : ∀ n, r.id = some n ↔ fields.get? "id" = some (.ofUInt64 n)
  unnumbered : r.id = none ↔ fields.get? "id" = none ∨ fields.get? "id" = some .null
  result : r.result = fields.get? "result"
  error : ∀ e, r.error = some e ↔ ∃ v, fields.get? "error" = some v ∧ e.Spelled v
  faultless : r.error = none ↔ fields.get? "error" = none ∨ fields.get? "error" = some .null

section

variable {fields : Fields} {r : Response}

theorem checks_iff : Json.checkFields [("error", Json.checked (Json.asOption RpcError.decode)),
    ("id", Json.checked (Json.asOption Json.asUInt64)), ("jsonrpc", Json.checked Json.asString)]
    fields = .ok () ↔
      (fields.Each "error" fun v => ∃ e, Json.asOption RpcError.decode v = .ok e) ∧
      (fields.Each "id" fun v => ∃ n, Json.asOption Json.asUInt64 v = .ok n) ∧
      fields.Each "jsonrpc" fun v => ∃ version, Json.asString v = .ok version := by
  rw [Json.checkFields_eq_ok (by decide)]
  simp only [List.forall_mem_cons, List.not_mem_nil, false_imp_iff, implies_true, and_true,
    Json.checked_eq_ok, Fields.Each]

/-- Fields are decoded if those that are known are of their kinds. -/
theorem exists_ofFields : (∃ r, ofFields fields = .ok r) ↔
    (fields.Each "error" fun v => v = .null ∨ ∃ e : RpcError, e.Spelled v) ∧
    (fields.Each "id" fun v => v = .null ∨ ∃ n : UInt64, v = .ofUInt64 n) ∧
    fields.Each "jsonrpc" fun v => ∃ version, v = .string version := by
  simp only [← RpcError.decode_eq_ok_iff, ← Json.asUInt64_eq_ok, ← Json.asString_eq_ok,
    ← Json.exists_asOption, ← checks_iff]
  constructor
  · rintro ⟨r, read⟩
    obtain ⟨_, checked, -⟩ := Json.bind_eq_ok.mp read
    exact checked
  · intro checked
    obtain ⟨errors, ids, versions⟩ := checks_iff.mp checked
    obtain ⟨version, jsonrpc⟩ := Json.exists_optional protocolVersion versions
    obtain ⟨number, id⟩ := Json.exists_optional none ids
    obtain ⟨fault, error⟩ := Json.exists_optional none errors
    exact ⟨⟨version, number, fields.get? "result", fault⟩, by
      simp only [ofFields, checked, jsonrpc, id, error, bind, Except.bind, pure, Except.pure]⟩

theorem means_of_ofFields (read : ofFields fields = .ok r) : Means fields r := by
  obtain ⟨_, -, read⟩ := Json.bind_eq_ok.mp read
  obtain ⟨_, jsonrpc, read⟩ := Json.bind_eq_ok.mp read
  obtain ⟨_, id, read⟩ := Json.bind_eq_ok.mp read
  obtain ⟨_, error, read⟩ := Json.bind_eq_ok.mp read
  cases read
  refine ⟨?_, fun n => ?_, Json.optional_eq_none id, rfl, fun e => ?_, Json.optional_eq_none error⟩
  · rcases Json.optional_eq_ok.mp jsonrpc with ⟨missing, same⟩ | ⟨v, found, decodes⟩
    · exact .inr ⟨missing, same.symm⟩
    · exact .inl (Json.asString_eq_ok.mp decodes ▸ found)
  · refine (Json.optional_eq_some id).trans ⟨?_, fun found => ?_⟩
    · rintro ⟨v, found, -, decodes⟩
      exact Json.asUInt64_eq_ok.mp decodes ▸ found
    · exact ⟨_, found, nofun, Json.asUInt64_ofUInt64 n⟩
  · refine (Json.optional_eq_some error).trans ⟨?_, ?_⟩
    · rintro ⟨v, found, -, decodes⟩
      exact ⟨v, found, RpcError.decode_eq_ok_iff.mp decodes⟩
    · rintro ⟨v, found, spelled⟩
      have real : v ≠ .null := by
        rintro rfl
        cases spelled
      exact ⟨v, found, real, RpcError.decode_eq_ok_iff.mpr spelled⟩

/-- A field that responses do not have changes nothing, wherever it stands. -/
theorem ofFrame_insert {before behind : Fields} {key : String} {w : Json}
    (unknown : key ∉ ["error", "id", "jsonrpc", "result"]) :
    ofFrame (.object (before ++ (key, w) :: behind)) = ofFrame (.object (before ++ behind)) := by
  simp only [List.mem_cons, List.not_mem_nil, or_false, not_or] at unknown
  obtain ⟨error, id, jsonrpc, result⟩ := unknown
  have checks := @Json.checkFields_insert [("error", Json.checked (Json.asOption RpcError.decode)),
    ("id", Json.checked (Json.asOption Json.asUInt64)), ("jsonrpc", Json.checked Json.asString)]
    before behind key w (by simp [List.lookup_cons, beq_eq_false_iff_ne.mpr, *])
  have same {known : String} (differ : ¬ key = known) :
      Fields.get? (before ++ (key, w) :: behind) known = Fields.get? (before ++ behind) known :=
    Fields.get?_insert (Ne.symm differ)
  simp only [ofFrame, decode, Json.Shape.decode, ofFields, checks, Fields.has, Json.optional,
    same error, same id, same jsonrpc, same result]
  rfl

/-- Whatever is not taken is malformed. -/
theorem malformed_of_error {v : Json} {failure : Failure} (refused : ofFrame v = .error failure) :
    ∃ text, failure = .malformed text := by
  cases v with
  | object fields =>
      rw [ofFrame] at refused
      split at refused
      · cases decoded : decode (.object fields) with
        | error e => rw [decoded] at refused; cases refused; exact ⟨_, rfl⟩
        | ok r => rw [decoded] at refused; cases refused
      · cases refused
        exact ⟨_, rfl⟩
  | _ => cases refused; exact ⟨_, rfl⟩

end

/-- A frame is taken exactly if it is an object with a result or an error whose known fields are
of their kinds. The response that it gives is the one its fields stand for, fields that responses
do not have change nothing, and whatever is not taken is malformed. -/
theorem frames_follow_grammar (v : Json) :
    ((∃ r, ofFrame v = .ok r) ↔ ∃ fields, v = .object fields ∧ Grammatical fields) ∧
    (∀ fields r, v = .object fields → ofFrame v = .ok r → Means fields r) ∧
    (∀ (before behind : Fields) key w, v = .object (before ++ (key, w) :: behind) →
      key ∉ ["error", "id", "jsonrpc", "result"] →
      ofFrame v = ofFrame (.object (before ++ behind))) ∧
    ∀ failure, ofFrame v = .error failure → ∃ text, failure = .malformed text := by
  refine ⟨⟨?_, ?_⟩, ?_, ?_, fun _ => malformed_of_error⟩
  · rintro ⟨r, read⟩
    obtain ⟨fields, object, answer, decodes⟩ := ofFrame_eq_ok.mp read
    obtain ⟨error, id, jsonrpc⟩ := exists_ofFields.mp ⟨r, decodes⟩
    exact ⟨fields, object, answer, jsonrpc, id, error⟩
  · rintro ⟨fields, object, answer, jsonrpc, id, error⟩
    obtain ⟨r, decodes⟩ := exists_ofFields.mpr ⟨error, id, jsonrpc⟩
    exact ⟨r, ofFrame_eq_ok.mpr ⟨fields, object, answer, decodes⟩⟩
  · rintro fields r rfl read
    obtain ⟨_, same, -, decodes⟩ := ofFrame_eq_ok.mp read
    cases same
    exact means_of_ofFields decodes
  · rintro before behind key w rfl unknown
    exact ofFrame_insert unknown

/-- An error may come as an array, and a field that responses do not have beside it. -/
example : ofFrame (.object [("error", .array [.ofInt64 (-32601), .string "no such method"]),
    ("id", .null), ("method", .bool true)]) =
      .ok { id := none, error := some ⟨-32601, "no such method", none⟩ } := rfl

end Response

end RpcLink
