import RpcLink.Wire.Response

/-!
Messages of a user interface that cannot reach the server itself: the call that it asks for,
and the one reply that it gets.
-/

namespace RpcLink.Relay

/-- A call that is asked for. -/
structure Ask where
  method : String
  params : Json
deriving DecidableEq

namespace Ask

def toJson (a : Ask) : Json :=
  .object [("method", .string a.method), ("params", a.params)]

def shape : Json.Shape := ⟨"ProxyRequest", 2⟩

def ofFields (fields : Fields) : Except Json.DecodeError Ask := do
  Json.checkFields [("method", Json.checked Json.asString)] fields
  pure {
    method := ← Json.required "method" Json.asString fields
    params := ← Json.optional "params" Json.asAny (.object []) fields }

def ofItems (items : List Json) : Except Json.DecodeError Ask := do
  pure {
    method := ← shape.item 0 Json.asString items
    params := ← shape.itemOr 1 Json.asAny (.object []) items }

/-- Read a call; missing parameters are an empty object. -/
def decode : Json.Decoder Ask := shape.decode ofFields ofItems

end Ask

/-- The reply to a call. -/
structure Reply where
  ok : Bool
  response : Option Response := none
  error : Option String := none
deriving DecidableEq

namespace Reply

/-- The reply that hands on a response. -/
def success (r : Response) : Reply := { ok := true, response := some r }

/-- The reply to a call that failed. -/
def failure (message : String) : Reply := { ok := false, error := some message }

/-- The reply that tells how a call ended. -/
def ofResult : Except Failure Response → Reply
  | .ok r => success r
  | .error e => failure e.message

/-- What is replied to a message that asks for no call. -/
def refused (e : Json.DecodeError) : Reply := failure s!"invalid request: {e.message}"

def toJson (r : Reply) : Json :=
  .object ([("ok", .bool r.ok)] ++
    (r.response.map fun x => ("response", x.toJson)).toList ++
    (r.error.map fun m => ("error", .string m)).toList)

def shape : Json.Shape := ⟨"ProxyReply", 3⟩

def ofFields (fields : Fields) : Except Json.DecodeError Reply := do
  Json.checkFields [("error", Json.checked (Json.asOption Json.asString)),
    ("ok", Json.checked Json.asBool),
    ("response", Json.checked (Json.asOption Response.decode))] fields
  pure {
    ok := ← Json.required "ok" Json.asBool fields
    response := ← Json.optional "response" (Json.asOption Response.decode) none fields
    error := ← Json.optional "error" (Json.asOption Json.asString) none fields }

def ofItems (items : List Json) : Except Json.DecodeError Reply := do
  pure {
    ok := ← shape.item 0 Json.asBool items
    response := ← shape.itemOr 1 (Json.asOption Response.decode) none items
    error := ← shape.itemOr 2 (Json.asOption Json.asString) none items }

def decode : Json.Decoder Reply := shape.decode ofFields ofItems

end Reply

end RpcLink.Relay
