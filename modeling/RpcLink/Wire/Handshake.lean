import RpcLink.Wire.Response

/-!
The handshake: who calls, who answers, and the request that ends the conversation.
-/

namespace RpcLink

/-- The method of the first request on every channel. -/
def helloMethod : String := "initialize"

/-- The method that asks the server to end. -/
def shutdownMethod : String := "shutdown"

/-- Name and version of a caller. -/
structure ClientInfo where
  name : String := "libcodingbuddy"
  version : String := "0.1.0"
deriving DecidableEq

namespace ClientInfo

def toJson (c : ClientInfo) : Json :=
  .object [("name", .string c.name), ("version", .string c.version)]

def shape : Json.Shape := ⟨"ClientInfo", 2⟩

def ofFields (fields : Fields) : Except Json.DecodeError ClientInfo := do
  Json.checkFields [("name", Json.checked Json.asString), ("version", Json.checked Json.asString)]
    fields
  pure {
    name := ← Json.required "name" Json.asString fields
    version := ← Json.required "version" Json.asString fields }

def ofItems (items : List Json) : Except Json.DecodeError ClientInfo := do
  pure {
    name := ← shape.item 0 Json.asString items
    version := ← shape.item 1 Json.asString items }

def decode : Json.Decoder ClientInfo := shape.decode ofFields ofItems

/-- The parameters of the first request. -/
def hello (c : ClientInfo) : Json := .object [("client", c.toJson)]

end ClientInfo

/-- What a server says of itself. -/
structure ServerInfo where
  name : String := ""
  version : String := ""
  /-- The methods that the server offers. -/
  capabilities : List String := []
  /-- Whether long answers come in parts. -/
  partialMessages : Bool := false
deriving DecidableEq

namespace ServerInfo

def toJson (s : ServerInfo) : Json :=
  .object [("name", .string s.name), ("version", .string s.version),
    ("capabilities", .array (s.capabilities.map .string)),
    ("partial_messages_enabled", .bool s.partialMessages)]

def shape : Json.Shape := ⟨"ServerInfo", 4⟩

def ofFields (fields : Fields) : Except Json.DecodeError ServerInfo := do
  Json.checkFields [("capabilities", Json.checked (Json.asList Json.asString)),
    ("name", Json.checked Json.asString),
    ("partial_messages_enabled", Json.checked Json.asBool),
    ("version", Json.checked Json.asString)] fields
  pure {
    name := ← Json.optional "name" Json.asString "" fields
    version := ← Json.optional "version" Json.asString "" fields
    capabilities := ← Json.optional "capabilities" (Json.asList Json.asString) [] fields
    partialMessages := ← Json.optional "partial_messages_enabled" Json.asBool false fields }

def ofItems (items : List Json) : Except Json.DecodeError ServerInfo := do
  pure {
    name := ← shape.itemOr 0 Json.asString "" items
    version := ← shape.itemOr 1 Json.asString "" items
    capabilities := ← shape.itemOr 2 (Json.asList Json.asString) [] items
    partialMessages := ← shape.itemOr 3 Json.asBool false items }

def decode : Json.Decoder ServerInfo := shape.decode ofFields ofItems

/-- Read the answer to the first request. It has to be an object that describes a server. -/
def ofResponse (r : Response) : Except Failure ServerInfo :=
  match r.error with
  | some e => .error (.handshake s!"initialize rejected: {e.text}")
  | none =>
    match r.result.getD .null with
    | .object fields =>
      (decode (.object fields)).mapError fun e =>
        .handshake s!"unreadable initialize result: {e.message}"
    | v => .error (.handshake s!"initialize returned {v.compact} instead of an object")

/-- Whether the server offers a method. One that names none offers all. -/
def supports (s : ServerInfo) (method : String) : Bool :=
  s.capabilities.isEmpty || s.capabilities.contains method

end ServerInfo

end RpcLink
