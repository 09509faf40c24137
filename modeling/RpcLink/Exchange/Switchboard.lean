import RpcLink.Exchange.Basic
import RpcLink.Framing.LineBuffer
import RpcLink.Observation
import RpcLink.Wire.Response

/-!
Calls over any number of channels. The numbers of the requests come from one sequence, so that
no two channels use the same number, and each call is resolved once: by the response with its
number on its own channel, or by the end of that channel.
-/

namespace RpcLink

/-- A call that was registered. -/
structure Call where
  /-- The exchange on which it waits. -/
  exchange : Nat
  /-- The number of its request. -/
  id : UInt64
  status : CallStatus Response := .waiting
  /-- Nobody awaits the call any more. -/
  settled : Bool := false
deriving DecidableEq

/-- How a call stands for the one who awaits it. -/
def Call.outcome (c : Call) : Option (Except Failure Response) :=
  match c.status with
  | .waiting => none
  | .answered response => some (.ok response)
  | .rejected reason => some (.error (.channelClosed reason))
  | .orphaned => some (.error (.channelClosed "channel dropped"))

structure Switchboard where
  /-- The next number of the shared sequence. -/
  next : UInt64 := 1
  exchanges : List Exchange := []
  calls : List Call := []
  /-- What was observed, in order. -/
  log : List Observation := []
deriving DecidableEq

namespace Switchboard

/-- The exchange of a channel; one that does not exist counts as gone. -/
def exchange (b : Switchboard) (x : Nat) : Exchange :=
  b.exchanges.getD x { dropped := true }

/-- Change one exchange. -/
def setExchange (b : Switchboard) (x : Nat) (e : Exchange) : Switchboard :=
  { b with exchanges := b.exchanges.set x e }

/-- Note something that was observed. -/
def observe (b : Switchboard) (o : Observation) : Switchboard :=
  { b with log := b.log ++ [o] }

/-- Resolve a call. -/
def resolve (b : Switchboard) (call : Nat) (status : CallStatus Response) : Switchboard :=
  { b with calls := b.calls.modify call fun c => { c with status } }

/-- Resolve several calls alike. -/
def resolveAll (b : Switchboard) (calls : List Nat) (status : CallStatus Response) :
    Switchboard :=
  calls.foldl (fun b call => b.resolve call status) b

/-- Open a further channel, with a sequence of its own if that is wanted. -/
def openExchange (b : Switchboard) (ownSequence : Bool := false) : Switchboard :=
  let e : Exchange := { ownNext := if ownSequence then some 1 else none }
  { b with exchanges := b.exchanges ++ [e] }

/-- Draw the next number of the shared sequence. -/
def draw (b : Switchboard) : UInt64 × Switchboard :=
  (b.next, { b with next := b.next + 1 })

/-- Draw the next number for a channel. -/
def drawFor (b : Switchboard) (x : Nat) : UInt64 × Switchboard :=
  match (b.exchange x).ownNext with
  | some id => (id, b.setExchange x { b.exchange x with ownNext := some (id + 1) })
  | none => b.draw

/-- Register a call: its request and its place. On a closed channel nothing is registered. -/
def register (b : Switchboard) (x : Nat) (method : String) (params : Json) :
    Except Failure (Request × Nat) × Switchboard :=
  match (b.exchange x).closed with
  | some reason => (.error (.channelClosed reason), b)
  | none =>
    let (id, b) := b.drawFor x
    let call := b.calls.length
    let c : Call := { exchange := x, id }
    let b := { b with calls := b.calls ++ [c] }
    let r : Request := { id, method, params }
    (.ok (r, call), b.setExchange x ((b.exchange x).add id call))

/-- Deliver a response: whether a call waited for it. -/
def deliver (b : Switchboard) (x : Nat) (r : Response) : Bool × Switchboard :=
  match r.id.bind fun id => (b.exchange x).waiting.lookup id with
  | some call =>
    let e := ((b.exchange x).take (r.id.getD 0)).2
    (true, (b.setExchange x e).resolve call (.answered r))
  | none => (false, b.observe (.unmatched r.id))

/-- Close a channel: the number of calls that are rejected by it. Only the first time counts. -/
def abort (b : Switchboard) (x : Nat) (reason : String) : Nat × Switchboard :=
  let e := b.exchange x
  match e.closed with
  | some _ => (0, b)
  | none =>
    let b := b.setExchange x { e with closed := some reason, waiting := [] }
    let b := b.resolveAll (e.waiting.map Prod.snd) (.rejected reason)
    (e.waiting.length, b.observe (.closed reason e.waiting.length))

/-- Take a call out of a channel without an answer: whether it was there. -/
def forget (b : Switchboard) (x : Nat) (id : UInt64) : Bool × Switchboard :=
  match (b.exchange x).take id with
  | (some call, e) => (true, (b.setExchange x e).resolve call .orphaned)
  | (none, _) => (false, b)

/-- A channel is gone, and nothing can answer its calls any more. -/
def drop (b : Switchboard) (x : Nat) : Switchboard :=
  let e := b.exchange x
  (b.setExchange x { e with waiting := [], dropped := true }).resolveAll
    (e.waiting.map Prod.snd) .orphaned

/-- Hand a frame to a channel. What is no response is reported, shortened. -/
def dispatch (b : Switchboard) (x : Nat) : Framing.Frame → Switchboard
  | .message v =>
    match Response.ofFrame v with
    | .ok r => (b.deliver x r).2
    | .error e => b.observe (.malformed (Framing.preview v.compact) e.message)
  | .malformed text error => b.observe (.malformed (Framing.preview text) error)

/-- Hand frames to a channel one after the other. -/
def dispatchAll (b : Switchboard) (x : Nat) (frames : List Framing.Frame) : Switchboard :=
  frames.foldl (fun b frame => b.dispatch x frame) b

/-! ### Those who await calls -/

/-- How a call stands, if it is still awaited. -/
inductive Standing where
  | waiting (id : UInt64)
  | done (result : Except Failure Response)
  | gone

/-- The call at a place, if it is still awaited. -/
def awaited? (b : Switchboard) (call : Nat) : Option Call :=
  b.calls[call]?.filter fun c => !c.settled

/-- Stop awaiting a call. It stays where it waits. -/
def settle (b : Switchboard) (call : Nat) : Switchboard :=
  { b with calls := b.calls.modify call fun c => { c with settled := true } }

/-- Ask how a call stands. Its outcome is told once. -/
def poll (b : Switchboard) (call : Nat) : Standing × Switchboard :=
  match b.awaited? call with
  | none => (.gone, b)
  | some c =>
    match c.outcome with
    | none => (.waiting c.id, b)
    | some result => (.done result, b.settle call)

/-- Ask how a call stands when its time is over, in nanoseconds. -/
def expire (b : Switchboard) (call : Nat) (ns : Nat) : Standing × Switchboard :=
  match b.poll call with
  | (.waiting _, b) => (.done (.error (.timeout ns)), b.settle call)
  | other => other

/-- Stop awaiting a call: whether it was awaited. -/
def forsake (b : Switchboard) (call : Nat) : Bool × Switchboard :=
  ((b.awaited? call).isSome, b.settle call)

end Switchboard

end RpcLink
