import RpcLink.Json.Writer
import RpcLink.Text.Quoted

/-!
Decoding JSON values into the types of the wire. A record is an object with named fields or an
array with the same fields in their order of declaration. In an object the fields are decoded in
order of their keys, keys that the record does not have are passed over, and only then are
missing fields found. So of two faults the one with the lesser key is reported.
-/

namespace RpcLink.Json

/-- Why a value does not decode. -/
inductive DecodeError
  | wrongType (found : Json) (expected : String)
  | wrongValue (found : Json) (expected : String)
  | missing (field : String)
  | wrongLength (length : Nat) (expected : String)
  | unknownVariant (name : String) (known : List String)
  | notOneKey
deriving DecidableEq

/-- What a message calls a value. -/
def described : Json → String
  | .null => "null"
  | .bool b => s!"boolean \x60{b}\x60"
  | .number (.integer i _) => s!"integer \x60{i}\x60"
  | .number (.float x) => "floating point \x60" ++ String.ofList x.chars ++ "\x60"
  | .string s => "string " ++ Text.quoted s
  | .array _ => "sequence"
  | .object _ => "map"

/-- The names of variants as a message lists them. -/
def variantList (known : List String) : String :=
  " or ".intercalate (known.map fun name => "\x60" ++ name ++ "\x60")

def DecodeError.message : DecodeError → String
  | .wrongType found expected => s!"invalid type: {found.described}, expected {expected}"
  | .wrongValue found expected => s!"invalid value: {found.described}, expected {expected}"
  | .missing field => s!"missing field \x60{field}\x60"
  | .wrongLength length expected => s!"invalid length {length}, expected {expected}"
  | .unknownVariant name known =>
    s!"unknown variant \x60{name}\x60, expected " ++ variantList known
  | .notOneKey => "invalid value: map, expected map with a single key"

/-- A way to decode a value. -/
abbrev Decoder (α : Type) := Json → Except DecodeError α

/-! ### Single values -/

def asAny : Decoder Json := fun v => .ok v

def asString : Decoder String
  | .string s => .ok s
  | v => .error (.wrongType v "a string")

def asBool : Decoder Bool
  | .bool b => .ok b
  | v => .error (.wrongType v "a boolean")

/-- An integer in the range of an unsigned word. -/
def asUInt64 : Decoder UInt64
  | .number (.integer i w) =>
    if 0 ≤ i then .ok (UInt64.ofNat i.toNat)
    else .error (.wrongValue (.number (.integer i w)) "u64")
  | v => .error (.wrongType v "u64")

/-- An integer in the range of a signed word. -/
def asInt64 : Decoder Int64
  | .number (.integer i w) =>
    if i < 0x8000000000000000 then .ok (Int64.ofInt i)
    else .error (.wrongValue (.number (.integer i w)) "i64")
  | v => .error (.wrongType v "i64")

/-- Nothing for `null`. -/
def asOption {α : Type} (decode : Decoder α) : Decoder (Option α)
  | .null => .ok none
  | v => (decode v).map some

def asList {α : Type} (decode : Decoder α) : Decoder (List α)
  | .array items => items.mapM decode
  | v => .error (.wrongType v "a sequence")

/-! ### Records -/

/-- Whether a value decodes, with its fault if it does not. -/
def checked {α : Type} (decode : Decoder α) : Decoder Unit :=
  fun v => (decode v).map fun _ => ()

/-- Decode every field that has a decoder, in order of the keys. -/
def checkFields (decoders : List (String × Decoder Unit)) : Fields → Except DecodeError Unit
  | [] => .ok ()
  | (key, value) :: rest =>
    match List.lookup key decoders with
    | some decode => do
      decode value
      checkFields decoders rest
    | none => checkFields decoders rest

/-- The value of a field that must be there. -/
def required {α : Type} (name : String) (decode : Decoder α) (fields : Fields) :
    Except DecodeError α :=
  match fields.get? name with
  | some v => decode v
  | none => .error (.missing name)

/-- The value of a field, or a value in place of a missing one. -/
def optional {α : Type} (name : String) (decode : Decoder α) (absent : α) (fields : Fields) :
    Except DecodeError α :=
  match fields.get? name with
  | some v => decode v
  | none => .ok absent

/-- The name of a record and the number of its fields. -/
structure Shape where
  name : String
  size : Nat

namespace Shape

/-- What messages call the record. -/
def title (s : Shape) : String := s!"struct {s.name}"

/-- The item at a place that must be there. -/
def item {α : Type} (s : Shape) (place : Nat) (decode : Decoder α) (items : List Json) :
    Except DecodeError α :=
  match items[place]? with
  | some v => decode v
  | none => .error (.wrongLength place s!"struct {s.name} with {s.size} elements")

/-- The item at a place, or a value in place of a missing one. -/
def itemOr {α : Type} (_s : Shape) (place : Nat) (decode : Decoder α) (absent : α)
    (items : List Json) : Except DecodeError α :=
  match items[place]? with
  | some v => decode v
  | none => .ok absent

/-- Refuse more items than the record has fields. -/
def atMost (s : Shape) (items : List Json) : Except DecodeError Unit :=
  if s.size < items.length then .error (.wrongLength items.length "fewer elements in array")
  else .ok ()

/-- Decode a record from either of its two forms. -/
def decode {α : Type} (s : Shape) (ofFields : Fields → Except DecodeError α)
    (ofItems : List Json → Except DecodeError α) : Decoder α
  | .object fields => ofFields fields
  | .array items => do
    let x ← ofItems items
    s.atMost items
    pure x
  | v => .error (.wrongType v s.title)

end Shape

/-- What a message calls the sort of a value. -/
def sort : Json → String
  | .null => "null"
  | .bool _ => "a boolean"
  | .number _ => "a number"
  | .string _ => "a string"
  | .array _ => "an array"
  | .object _ => "an object"

end RpcLink.Json
