import RpcLink.Proofs.Wire.Request
import RpcLink.Proofs.Wire.Response
import RpcLink.Wire.Handshake
import RpcLink.Wire.Relay

/-!
What is written of a record is read back as it was, so that no two records are written alike. A
record that says `null` is told from one that says nothing, but for the data of an error: there
`null` counts as nothing, and so an error must not hold it.
-/

namespace RpcLink

/-- The values of a type, as far as they are sound, are read back from what is written of them. -/
structure Json.ReadBack {α : Type} (toJson : α → Json) (decode : Json.Decoder α)
    (Sound : α → Prop) : Prop where
  reads : ∀ x, Sound x → decode (toJson x).sorted = .ok x
  injective : ∀ x y, Sound x → Sound y → (toJson x).sorted = (toJson y).sorted → x = y

namespace Json

theorem readBack_of_reads {α : Type} {toJson : α → Json} {decode : Decoder α} {Sound : α → Prop}
    (reads : ∀ x, Sound x → decode (toJson x).sorted = .ok x) : ReadBack toJson decode Sound where
  reads := reads
  injective x y soundX soundY same := by
    have read := reads y soundY
    rw [← same, reads x soundX] at read
    exact Except.ok.inj read

/-- Texts are read back item by item. -/
theorem asList_asString (texts : List String) :
    asList asString (.array (texts.map .string)) = .ok texts :=
  asList_asString_eq_ok.mpr rfl

theorem sorted_strings (texts : List String) :
    (Json.array (texts.map .string)).sorted = .array (texts.map .string) := by
  refine sorted_of_ordered (.array fun v member => ?_)
  obtain ⟨text, -, rfl⟩ := List.mem_map.mp member
  exact .string text

end Json

/-! ### Requests and errors -/

theorem Request.readBack :
    Json.ReadBack Request.toJson Request.decode fun r => r.params.Ordered := by
  refine Json.readBack_of_reads fun r ordered => ?_
  rw [decode_toJson_sorted, Json.sorted_of_ordered ordered]

/-- An error whose data can be told from none, their fields in order. -/
structure RpcError.Sound (e : RpcError) : Prop where
  present : e.data ≠ some .null
  ordered : ∀ data, e.data = some data → data.Ordered

theorem RpcError.readBack : Json.ReadBack RpcError.toJson RpcError.decode RpcError.Sound :=
  Json.readBack_of_reads fun _ sound => decode_toJson_sorted sound.present sound.ordered

/-- A response whose values have their fields in order, and whose error is sound. -/
structure Response.Sound (r : Response) : Prop where
  result : ∀ v, r.result = some v → v.Ordered
  error : ∀ e, r.error = some e → e.Sound

theorem Response.readBack : Json.ReadBack Response.toJson Response.decode Response.Sound := by
  refine Json.readBack_of_reads fun r sound => ?_
  exact decode_toJson_sorted (fun e failed => (sound.error e failed).present)
    ⟨sound.result, fun e data failed => (sound.error e failed).ordered data⟩

/-! ### The two ends -/

theorem ClientInfo.readBack :
    Json.ReadBack ClientInfo.toJson ClientInfo.decode fun _ => True :=
  Json.readBack_of_reads fun _ _ => rfl

theorem ServerInfo.toJson_sorted (s : ServerInfo) :
    s.toJson.sorted = .object [("capabilities", .array (s.capabilities.map .string)),
      ("name", .string s.name), ("partial_messages_enabled", .bool s.partialMessages),
      ("version", .string s.version)] := by
  show Json.object [("capabilities", (Json.array (s.capabilities.map .string)).sorted), _, _, _] = _
  rw [Json.sorted_strings]
  rfl

theorem ServerInfo.readBack :
    Json.ReadBack ServerInfo.toJson ServerInfo.decode fun _ => True := by
  refine Json.readBack_of_reads fun s _ => ?_
  rw [toJson_sorted]
  have methods := Json.asList_asString s.capabilities
  simp [decode, Json.Shape.decode, ofFields, Json.checkFields, Json.checked, Json.optional,
    Fields.get?, List.lookup_cons, Json.asString, Json.asBool, methods, Except.map, bind,
    Except.bind, pure, Except.pure]

/-! ### Calls that are relayed -/

namespace Relay

theorem Ask.readBack : Json.ReadBack Ask.toJson Ask.decode fun a => a.params.Ordered := by
  refine Json.readBack_of_reads fun a ordered => ?_
  show Ask.decode (.object [("method", .string a.method), ("params", a.params.sorted)]) = .ok a
  rw [Json.sorted_of_ordered ordered]
  rfl

/-- A reply whose response is sound, if it has one. -/
def Reply.Sound (r : Reply) : Prop := ∀ response, r.response = some response → response.Sound

theorem Reply.toJson_sorted (r : Reply) :
    r.toJson.sorted = .object ((r.error.map fun m => ("error", .string m)).toList ++
      [("ok", .bool r.ok)] ++ (r.response.map fun x => ("response", x.toJson.sorted)).toList) := by
  obtain ⟨ok, response, error⟩ := r
  cases response <;> cases error <;> rfl

theorem Reply.ofFields_of_get? {fields : Fields} {r : Reply}
    (distinct : (fields.map Prod.fst).Nodup) (ok : fields.get? "ok" = some (.bool r.ok))
    (response : Json.optional "response" (Json.asOption Response.decode) none fields =
      .ok r.response)
    (error : Json.optional "error" (Json.asOption Json.asString) none fields = .ok r.error) :
    ofFields fields = .ok r := by
  have ok : Json.required "ok" Json.asBool fields = .ok r.ok :=
    Json.required_eq_ok.mpr ⟨_, ok, rfl⟩
  have checks : Json.checkFields [("error", Json.checked (Json.asOption Json.asString)),
      ("ok", Json.checked Json.asBool),
      ("response", Json.checked (Json.asOption Response.decode))] fields = .ok () := by
    refine Json.checkFields_of_get? distinct fun d member v found => ?_
    simp only [List.mem_cons, List.not_mem_nil, or_false] at member
    rcases member with rfl | rfl | rfl
    · exact Json.checked_of_optional error found
    · exact Json.checked_of_required ok found
    · exact Json.checked_of_optional response found
  simp only [ofFields, checks, ok, response, error, bind, Except.bind, pure, Except.pure]

theorem Reply.readBack : Json.ReadBack Reply.toJson Reply.decode Reply.Sound := by
  refine Json.readBack_of_reads fun r sound => ?_
  rw [toJson_sorted]
  obtain ⟨ok, response, error⟩ := r
  cases response with
  | none => cases error <;> rfl
  | some x =>
      have written : x.toJson.sorted ≠ .null := by
        rw [Response.toJson_sorted (sound x rfl).result]
        nofun
      have read : Json.asOption Response.decode x.toJson.sorted = .ok (some x) :=
        Json.asOption_eq_some.mpr ⟨written, Response.readBack.reads x (sound x rfl)⟩
      cases error with
      | none => exact ofFields_of_get? (by simp) rfl read rfl
      | some m => exact ofFields_of_get? (by simp) rfl read rfl

end Relay

/-! ### All records -/

/-- Every record that is written is read back as it was, and no two of them are written alike. -/
theorem records_are_read_back :
    Json.ReadBack Request.toJson Request.decode (fun r => r.params.Ordered) ∧
    Json.ReadBack RpcError.toJson RpcError.decode RpcError.Sound ∧
    Json.ReadBack Response.toJson Response.decode Response.Sound ∧
    Json.ReadBack ServerInfo.toJson ServerInfo.decode (fun _ => True) ∧
    Json.ReadBack ClientInfo.toJson ClientInfo.decode (fun _ => True) ∧
    Json.ReadBack Relay.Ask.toJson Relay.Ask.decode (fun a => a.params.Ordered) ∧
    Json.ReadBack Relay.Reply.toJson Relay.Reply.decode Relay.Reply.Sound :=
  ⟨Request.readBack, RpcError.readBack, Response.readBack, ServerInfo.readBack,
    ClientInfo.readBack, Relay.Ask.readBack, Relay.Reply.readBack⟩

/-- A reply with both parts, whose response has a result that is `null`, no number and an error with
data, is told from the reply whose response has no result. -/
theorem null_result_is_told_from_none :
    let e : RpcError := { code := -32000, message := "m", data := some (.array [.null]) }
    let said : Response := { id := none, result := some .null, error := some e }
    let unsaid : Response := { id := none, error := some e }
    let reply (r : Response) : Relay.Reply := { ok := false, response := some r, error := some "m" }
    (reply said).Sound ∧ (reply unsaid).Sound ∧
      Relay.Reply.decode (reply said).toJson.sorted = .ok (reply said) ∧
      (reply said).toJson.sorted ≠ (reply unsaid).toJson.sorted := by
  intro e said unsaid reply
  have data : (Json.array [.null]).Ordered := .array (by simp [Json.Ordered.null])
  have sound : e.Sound := ⟨by simp [e], by rintro _ ⟨⟩; exact data⟩
  have soundSaid : (reply said).Sound := by
    rintro _ ⟨⟩
    exact ⟨by rintro _ ⟨⟩; exact .null, by rintro _ ⟨⟩; exact sound⟩
  have soundUnsaid : (reply unsaid).Sound := by
    rintro _ ⟨⟩
    exact ⟨by rintro _ ⟨⟩, by rintro _ ⟨⟩; exact sound⟩
  obtain ⟨-, -, -, -, -, -, replies⟩ := records_are_read_back
  refine ⟨soundSaid, soundUnsaid, replies.reads _ soundSaid, fun same => ?_⟩
  have alike := replies.injective _ _ soundSaid soundUnsaid same
  simp [reply, said, unsaid] at alike

end RpcLink
