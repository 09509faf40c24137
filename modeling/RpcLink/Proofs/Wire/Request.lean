import RpcLink.Proofs.Json.Decode
import RpcLink.Wire.Request

/-!
A request that was composed is read back as it was. Its parameters may stand in another order.
-/

namespace RpcLink

namespace Request

theorem toJson_sorted (r : Request) :
    r.toJson.sorted =
      .object [("id", .ofUInt64 r.id), ("jsonrpc", .string r.jsonrpc),
        ("method", .string r.method), ("params", r.params.sorted)] := rfl

theorem decode_toJson_sorted (r : Request) :
    decode r.toJson.sorted = .ok { r with params := r.params.sorted } := by
  rw [toJson_sorted]
  have number := Json.asUInt64_ofUInt64 r.id
  simp [decode, Json.Shape.decode, ofFields, Json.checkFields, Json.checked, Json.required,
    Json.optional, Fields.get?, List.lookup_cons, Json.asString, Json.asAny, number, Except.map,
    bind, Except.bind, pure, Except.pure]

end Request

end RpcLink
