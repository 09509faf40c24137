import RpcLink.Text.Quoted

/-!
An exchange: the calls that wait for a response on one channel, each under the number of its
request, until the channel is closed.
-/

namespace RpcLink

/-- What became of a call. -/
inductive CallStatus (α : Type) where
  | waiting
  /-- A response came. -/
  | answered (response : α)
  /-- The channel closed for a reason. -/
  | rejected (reason : String)
  /-- Nobody is left who could answer. -/
  | orphaned
deriving DecidableEq

/-- The waiting calls of a channel, by place in the list of all calls. -/
structure Exchange where
  /-- The next number, where the exchange has a sequence of its own. -/
  ownNext : Option UInt64 := none
  /-- The numbers that wait, each with its call, the latest last. -/
  waiting : List (UInt64 × Nat) := []
  /-- The reason for which the channel was closed first. -/
  closed : Option String := none
  /-- The exchange is gone. -/
  dropped : Bool := false
deriving DecidableEq

namespace Exchange

/-- Take the call that waits under a number. -/
def take (x : Exchange) (id : UInt64) : Option Nat × Exchange :=
  match x.waiting.lookup id with
  | some call => (some call, { x with waiting := x.waiting.filter fun w => w.1 != id })
  | none => (none, x)

/-- Let a call wait under a number. -/
def add (x : Exchange) (id : UInt64) (call : Nat) : Exchange :=
  { x with waiting := x.waiting.filter (fun w => w.1 != id) ++ [(id, call)] }

/-- Whether calls are accepted. -/
def isOpen (x : Exchange) : Bool := x.closed.isNone

/-- The exchange as text: how many calls wait, and the reason if it is closed. -/
def text (x : Exchange) : String :=
  let closed :=
    match x.closed with
    | some reason => s!"Some({Text.quoted reason})"
    | none => "None"
  s!"Correlator \x7b pending: {x.waiting.length}, closed: {closed} \x7d"

end Exchange

end RpcLink
