import RpcLink.Json.Writer
import RpcLink.Text.Hex

/-!
Scripts for servers on a bench: what a server does when it starts, and for each request. Texts of
a script may hold placeholders for what the server knows.
-/

namespace RpcLink.Bench

/-- One thing that a server does. -/
inductive Action where
  /-- Write a text. -/
  | print (text : String)
  | printBytes (bytes : List UInt8)
  /-- Write the letter `x` so many times. -/
  | fill (count : Nat)
  /-- Write a text as a packet. -/
  | packet (text : String)
  /-- Write to the log. -/
  | note (text : String)
  | noteBytes (bytes : List UInt8)
  /-- End, with a code of which eight bits count. -/
  | exit (code : Int)
  /-- Be ended by a signal. -/
  | signal (number : Nat)
  /-- Do nothing for some nanoseconds. -/
  | sleep (ns : Nat)
  /-- Write no more. -/
  | closeOutput

/-- What a server does for some requests. -/
structure Rule where
  /-- The method; every one if there is none. -/
  method : Option String
  /-- How often the rule is used at most. -/
  times : Option Nat
  actions : List Action

structure Script where
  /-- The server reads and writes packets, and else lines. -/
  native : Bool := false
  start : List Action := []
  rules : List Rule := []

/-! ### Scripts as JSON -/

namespace Script

def field? (v : Json) (key : String) : Option Json :=
  match v with
  | .object fields => Fields.get? fields key
  | _ => none

def listField (v : Json) (key : String) : List Json :=
  match field? v key with
  | some (.array items) => items
  | _ => []

def integer : Json → Int
  | .number (.integer i _) => i
  | _ => 0

/-- The action that a field stands for. -/
def actionOf : String × Json → Option Action
  | ("out", .string s) => some (.print s)
  | ("outhex", .string s) => some (.printBytes (Text.ofHex s))
  | ("fill", v) => some (.fill (integer v).toNat)
  | ("frame", .string s) => some (.packet s)
  | ("err", .string s) => some (.note s)
  | ("errhex", .string s) => some (.noteBytes (Text.ofHex s))
  | ("exit", v) => some (.exit (integer v))
  | ("signal", v) => some (.signal (integer v).toNat)
  | ("sleep", v) => some (.sleep (1000000 * (integer v).toNat))
  | ("close_stdout", .bool true) => some .closeOutput
  | _ => none

/-- The actions that a list of objects stands for. -/
def actionsOf (items : List Json) : List Action :=
  items.flatMap fun
    | .object fields => fields.filterMap actionOf
    | _ => []

def ruleOf (v : Json) : Rule where
  method :=
    match field? v "method" with
    | some (.string s) => if s = "*" then none else some s
    | _ => none
  times :=
    match field? v "times" with
    | some (.number (.integer i _)) => some i.toNat
    | _ => none
  actions := actionsOf (listField v "do")

/-- The script that an object describes. -/
def ofJson (v : Json) : Script where
  native := field? v "native" = some (.bool true)
  start := actionsOf (listField v "start")
  rules := (listField v "rules").map ruleOf

end Script

/-! ### Placeholders -/

/-- What the placeholders in a text stand for. -/
structure Facts where
  /-- The number of the request at hand. -/
  id : List Char
  /-- The request at hand. -/
  request : List Char
  /-- The server's arguments. -/
  arguments : List Char
  /-- The server's directory. -/
  directory : List Char
  /-- A variable of the server. -/
  lookUp : String → List Char

namespace Facts

/-- A text with what its placeholders stand for. -/
def expand (f : Facts) (text : List Char) : List Char :=
  match text with
  | [] => []
  | '$' :: 'I' :: 'D' :: rest => f.id ++ f.expand rest
  | '$' :: 'R' :: 'E' :: 'Q' :: rest => f.request ++ f.expand rest
  | '$' :: 'A' :: 'R' :: 'G' :: 'S' :: rest => f.arguments ++ f.expand rest
  | '$' :: 'C' :: 'W' :: 'D' :: rest => f.directory ++ f.expand rest
  | '$' :: 'E' :: 'N' :: 'V' :: '\x7b' :: rest =>
    f.lookUp (String.ofList (rest.takeWhile (· != '\x7d'))) ++
      f.expand ((rest.dropWhile (· != '\x7d')).drop 1)
  | c :: rest => c :: f.expand rest
termination_by text.length
decreasing_by
  all_goals simp only [List.length_cons]
  all_goals try omega
  have := (List.dropWhile_sublist (· != '\x7d') (l := rest)).length_le
  simp only [List.length_drop]
  omega

/-- The bytes of a text with what its placeholders stand for. -/
def bytes (f : Facts) (text : String) : List UInt8 :=
  Text.Utf8.encode (f.expand text.toList)

end Facts

end RpcLink.Bench
