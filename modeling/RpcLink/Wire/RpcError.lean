import RpcLink.Json.Decode

/-!
The error object of JSON-RPC: a code, a message and optional data.
-/

namespace RpcLink

structure RpcError where
  code : Int64
  message : String
  data : Option Json := none
deriving DecidableEq

namespace RpcError

/-- The error as text. -/
def text (e : RpcError) : String := s!"{e.code.toInt}: {e.message}"

/-- The error as a JSON object, its data left out where there are none. -/
def toJson (e : RpcError) : Json :=
  .object ([("code", .ofInt64 e.code), ("message", .string e.message)] ++
    (e.data.map fun data => ("data", data)).toList)

def shape : Json.Shape := ⟨"RpcError", 3⟩

def ofFields (fields : Fields) : Except Json.DecodeError RpcError := do
  Json.checkFields [("code", Json.checked Json.asInt64), ("message", Json.checked Json.asString)]
    fields
  pure {
    code := ← Json.required "code" Json.asInt64 fields
    message := ← Json.required "message" Json.asString fields
    data := ← Json.optional "data" (Json.asOption Json.asAny) none fields }

def ofItems (items : List Json) : Except Json.DecodeError RpcError := do
  pure {
    code := ← shape.item 0 Json.asInt64 items
    message := ← shape.item 1 Json.asString items
    data := ← shape.itemOr 2 (Json.asOption Json.asAny) none items }

/-- Read an error object. Data that are `null` count as none. -/
def decode : Json.Decoder RpcError := shape.decode ofFields ofItems

end RpcError

end RpcLink
