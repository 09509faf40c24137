import RpcLink.Wire.Request

/-!
Responses: what a server sends for a request, a result or an error, under the request's number.
-/

namespace RpcLink

structure Response where
  jsonrpc : String := protocolVersion
  /-- The number of the request; none if the server could not read it. -/
  id : Option UInt64
  /-- The result; `some .null` is a result that is `null`, `none` a missing one. -/
  result : Option Json := none
  error : Option RpcError := none
deriving DecidableEq

namespace Response

/-- The response to a call that succeeded. -/
def success (id : UInt64) (result : Json) : Response :=
  { id := some id, result := some result }

/-- The response to a call that failed. -/
def failure (id : Option UInt64) (error : RpcError) : Response :=
  { id, error := some error }

/-- A number, or `null` in place of a missing one. -/
def idJson (id : Option UInt64) : Json :=
  (id.map Json.ofUInt64).getD .null

/-- The response as a JSON object; a missing result and a missing error are left out. -/
def toJson (r : Response) : Json :=
  .object ([("jsonrpc", .string r.jsonrpc), ("id", idJson r.id)] ++
    (r.result.map fun v => ("result", v)).toList ++
    (r.error.map fun e => ("error", e.toJson)).toList)

def shape : Json.Shape := ⟨"Response", 4⟩

def ofFields (fields : Fields) : Except Json.DecodeError Response := do
  Json.checkFields [("error", Json.checked (Json.asOption RpcError.decode)),
    ("id", Json.checked (Json.asOption Json.asUInt64)), ("jsonrpc", Json.checked Json.asString)]
    fields
  pure {
    jsonrpc := ← Json.optional "jsonrpc" Json.asString protocolVersion fields
    id := ← Json.optional "id" (Json.asOption Json.asUInt64) none fields
    result := fields.get? "result"
    error := ← Json.optional "error" (Json.asOption RpcError.decode) none fields }

def ofItems (items : List Json) : Except Json.DecodeError Response := do
  pure {
    jsonrpc := ← shape.itemOr 0 Json.asString protocolVersion items
    id := ← shape.itemOr 1 (Json.asOption Json.asUInt64) none items
    result := items[2]?
    error := ← shape.itemOr 3 (Json.asOption RpcError.decode) none items }

/-- Read a response; each of its fields may be missing. -/
def decode : Json.Decoder Response := shape.decode ofFields ofItems

/-- Read a frame as a response. It has to be an object with a result or an error. -/
def ofFrame : Json → Except Failure Response
  | .object fields =>
    if Fields.has fields "result" || Fields.has fields "error" then
      (decode (.object fields)).mapError fun e => .malformed e.message
    else .error (.malformed "envelope carries neither result nor error")
  | v => .error (.malformed s!"expected a JSON object, got {v.sort}")

/-- Whether the server answered with an error. -/
def isError (r : Response) : Bool := r.error.isSome

/-- The result, unless the server answered with an error. -/
def outcome (r : Response) : Except Failure Json :=
  match r.error with
  | some e => .error (.rpc e)
  | none => .ok (r.result.getD .null)

end Response

end RpcLink
