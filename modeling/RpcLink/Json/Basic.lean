import RpcLink.Decimal.Binary64

/-!
JSON values. A number is an integer where it fits 64 bits, signed or unsigned, and otherwise a
binary floating-point number. The fields of an object form a list: in order of their keys in a
value that was read, in the order of declaration in one that was composed for writing.
-/

namespace RpcLink

/-- The integers that a number holds exactly. -/
def InWord (i : Int) : Prop := -0x8000000000000000 ≤ i ∧ i < 0x10000000000000000

instance (i : Int) : Decidable (InWord i) := inferInstanceAs (Decidable (_ ∧ _))

inductive Json.Number
  | integer (value : Int) (word : InWord value)
  | float (value : Decimal.Binary64)
deriving DecidableEq

inductive Json
  | null
  | bool (value : Bool)
  | number (value : Json.Number)
  | string (value : String)
  | array (items : List Json)
  | object (fields : List (String × Json))

instance : Inhabited Json := ⟨.null⟩

/-- The named values of an object. -/
abbrev Fields := List (String × Json)

namespace Fields

/-- The value under a key. -/
def get? (fields : Fields) (key : String) : Option Json :=
  List.lookup key fields

def has (fields : Fields) (key : String) : Bool :=
  (fields.get? key).isSome

/-- Put a value under a key, in the order of the keys; an earlier value of that key goes. -/
def insert (key : String) (value : Json) : Fields → Fields
  | [] => [(key, value)]
  | (k, v) :: rest =>
    if key < k then (key, value) :: (k, v) :: rest
    else if key = k then (key, value) :: rest
    else (k, v) :: insert key value rest

/-- The fields in order of their keys, of equal keys the last. -/
def ofList (fields : List (String × Json)) : Fields :=
  fields.foldl (fun sorted (key, value) => insert key value sorted) []

end Fields

namespace Json

/-- Every unsigned word is a number. -/
def ofUInt64 (n : UInt64) : Json :=
  .number (.integer n.toNat ⟨by omega, by have := n.toNat_lt; omega⟩)

/-- Every signed word is a number. -/
def ofInt64 (n : Int64) : Json :=
  .number (.integer n.toInt
    ⟨by have := n.le_toInt; omega, by have := n.toInt_lt; omega⟩)

/-- The same value with the fields of every object in order of their keys. -/
def sorted : Json → Json
  | .array items => .array (sortedItems items)
  | .object fields => .object (Fields.ofList (sortedFields fields))
  | other => other
where
  sortedItems : List Json → List Json
    | [] => []
    | item :: rest => item.sorted :: sortedItems rest
  sortedFields : List (String × Json) → List (String × Json)
    | [] => []
    | (key, value) :: rest => (key, value.sorted) :: sortedFields rest

/-- How deep arrays and objects nest. -/
def depth : Json → Nat
  | .array items => depthItems items + 1
  | .object fields => depthFields fields + 1
  | _ => 0
where
  depthItems : List Json → Nat
    | [] => 0
    | item :: rest => max item.depth (depthItems rest)
  depthFields : List (String × Json) → Nat
    | [] => 0
    | (_, value) :: rest => max value.depth (depthFields rest)

mutual

/-- Whether two values are the same. -/
def decEq : (a b : Json) → Decidable (a = b)
  | .null, .null => isTrue rfl
  | .bool a, .bool b => decidable_of_iff (a = b) (by simp)
  | .number a, .number b => decidable_of_iff (a = b) (by simp)
  | .string a, .string b => decidable_of_iff (a = b) (by simp)
  | .array a, .array b =>
    have := decEqItems a b
    decidable_of_iff (a = b) (by simp)
  | .object a, .object b =>
    have := decEqFields a b
    decidable_of_iff (a = b) (by simp)
  | .null, .bool _ | .null, .number _ | .null, .string _ | .null, .array _ | .null, .object _
  | .bool _, .null | .bool _, .number _ | .bool _, .string _ | .bool _, .array _
  | .bool _, .object _ | .number _, .null | .number _, .bool _ | .number _, .string _
  | .number _, .array _ | .number _, .object _ | .string _, .null | .string _, .bool _
  | .string _, .number _ | .string _, .array _ | .string _, .object _ | .array _, .null
  | .array _, .bool _ | .array _, .number _ | .array _, .string _ | .array _, .object _
  | .object _, .null | .object _, .bool _ | .object _, .number _ | .object _, .string _
  | .object _, .array _ => isFalse (by simp)

def decEqItems : (a b : List Json) → Decidable (a = b)
  | [], [] => isTrue rfl
  | a :: as, b :: bs =>
    have := decEq a b
    have := decEqItems as bs
    decidable_of_iff (a = b ∧ as = bs) (by simp)
  | [], _ :: _ | _ :: _, [] => isFalse (by simp)

def decEqFields : (a b : List (String × Json)) → Decidable (a = b)
  | [], [] => isTrue rfl
  | (k, a) :: as, (l, b) :: bs =>
    have := decEq a b
    have := decEqFields as bs
    decidable_of_iff ((k = l ∧ a = b) ∧ as = bs) (by simp)
  | [], _ :: _ | _ :: _, [] => isFalse (by simp)

end

instance : DecidableEq Json := decEq

end Json

end RpcLink
