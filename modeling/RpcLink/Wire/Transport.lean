import RpcLink.Failure

/-!
The two ways to reach a server.
-/

namespace RpcLink

inductive Transport where
  /-- A program that reads and writes lines. -/
  | stdio
  /-- A native host that reads and writes packets. -/
  | native
deriving DecidableEq, Inhabited

namespace Transport

def name : Transport → String
  | .stdio => "stdio"
  | .native => "native"

/-- The transport that a user names, in letters of any case. -/
def ofName (s : String) : Except Failure Transport :=
  let lower := String.ofList (s.toList.map Char.toLower)
  if lower = "stdio" then .ok .stdio
  else if lower = "native" || lower = "native-host" then .ok .native
  else .error (.invalidConfig s!"unsupported transport '{lower}' (supported: stdio, native)")

def toJson (t : Transport) : Json := .string t.name

/-- The transport with exactly this name. -/
def ofVariant (s : String) : Except Json.DecodeError Transport :=
  if s = "stdio" then .ok .stdio
  else if s = "native" then .ok .native
  else .error (.unknownVariant s ["stdio", "native"])

/-- Read a transport: its name, or an object with `null` under its name. -/
def decode : Json.Decoder Transport
  | .string s => ofVariant s
  | .object [(key, v)] => do
    let t ← ofVariant key
    match v with
    | .null => pure t
    | other => .error (.wrongType other "unit")
  | .object _ => .error .notOneKey
  | v => .error (.wrongType v "string or map")

end Transport

end RpcLink
