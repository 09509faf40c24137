import RpcLink.Failure

/-!
Requests: a method with parameters, under a number that its response will carry.
-/

namespace RpcLink

/-- The version of JSON-RPC that both ends speak. -/
def protocolVersion : String := "2.0"

structure Request where
  jsonrpc : String := protocolVersion
  id : UInt64
  method : String
  params : Json
deriving DecidableEq

namespace Request

/-- The request as a JSON object. -/
def toJson (r : Request) : Json :=
  .object [("jsonrpc", .string r.jsonrpc), ("id", .ofUInt64 r.id), ("method", .string r.method),
    ("params", r.params)]

/-- The request as a line: compact JSON and a line feed. -/
def line (r : Request) : List UInt8 :=
  r.toJson.bytes ++ [0x0A]

def shape : Json.Shape := ⟨"Request", 4⟩

def ofFields (fields : Fields) : Except Json.DecodeError Request := do
  Json.checkFields [("id", Json.checked Json.asUInt64), ("jsonrpc", Json.checked Json.asString),
    ("method", Json.checked Json.asString)] fields
  pure {
    jsonrpc := ← Json.required "jsonrpc" Json.asString fields
    id := ← Json.required "id" Json.asUInt64 fields
    method := ← Json.required "method" Json.asString fields
    params := ← Json.optional "params" Json.asAny .null fields }

def ofItems (items : List Json) : Except Json.DecodeError Request := do
  pure {
    jsonrpc := ← shape.item 0 Json.asString items
    id := ← shape.item 1 Json.asUInt64 items
    method := ← shape.item 2 Json.asString items
    params := ← shape.itemOr 3 Json.asAny .null items }

/-- Read a request; missing parameters are `null`. -/
def decode : Json.Decoder Request := shape.decode ofFields ofItems

end Request

end RpcLink
