import RpcLink.Failure

/-!
Ports: what a client posts to a native host, and what the host's side sends back. Each way is a
queue that ends when nobody sends any more, and that refuses new items when nobody takes them.
-/

namespace RpcLink.Native

/-- A queue between senders and a receiver. -/
structure Conduit (α : Type) where
  items : List α := []
  /-- Nobody sends any more. -/
  ended : Bool := false
  /-- Nobody takes new items any more; those that are there can still be taken. -/
  shut : Bool := false
deriving DecidableEq

/-- What a receiver finds. -/
inductive Received (α : Type) where
  | item (value : α)
  /-- Nothing yet. -/
  | empty
  /-- Nothing, and nothing will come. -/
  | closed
deriving DecidableEq

namespace Conduit

variable {α : Type}

/-- Send an item, unless nobody takes it: whether it was sent. -/
def send (q : Conduit α) (value : α) : Bool × Conduit α :=
  if q.shut then (false, q) else (true, { q with items := q.items ++ [value] })

/-- Take the oldest item. -/
def receive (q : Conduit α) : Received α × Conduit α :=
  match q.items with
  | value :: rest => (.item value, { q with items := rest })
  | [] => (if q.shut || q.ended then .closed else .empty, q)

/-- Nobody takes new items any more. -/
def close (q : Conduit α) : Conduit α := { q with shut := true }

/-- Nobody sends any more. -/
def finish (q : Conduit α) : Conduit α := { q with ended := true }

end Conduit

/-- Why a receiver has nothing. -/
def Received.message {α : Type} : Received α → Option String
  | .item _ => none
  | .empty => some "receiving on an empty channel"
  | .closed => some "receiving on a closed channel"

/-- What happens on a port. -/
inductive PortEvent where
  | message (value : Json)
  /-- The port closed; nothing follows. -/
  | disconnected (reason : String)
deriving DecidableEq

/-- The two ways of a connection to a native host. -/
structure Port where
  /-- From the client to the host. -/
  outgoing : Conduit Json := {}
  /-- From the host to the client. -/
  events : Conduit PortEvent := {}
deriving DecidableEq

/-- A port as it is handed over: the host's side may have acted on it, but nothing was posted to it
yet. -/
structure FreshPort extends Port where
  unposted : outgoing.items = [] := by rfl

/-- A port on which nothing has happened. -/
def FreshPort.untouched : FreshPort := {}

namespace Port

/-- Post a message to the host. -/
def post (p : Port) (message : Json) : Except Failure Unit × Port :=
  match p.outgoing.send message with
  | (true, outgoing) => (.ok (), { p with outgoing })
  | (false, _) => (.error (.channelClosed "native port is disconnected"), p)

/-- Whether the host's side takes no more messages. -/
def isClosed (p : Port) : Bool := p.outgoing.shut

/-- Tell the client of an event: whether it still listens. -/
def notify (p : Port) (event : PortEvent) : Bool × Port :=
  match p.events.send event with
  | (sent, events) => (sent, { p with events })

/-- The host's side is gone. What it sent can still be taken. -/
def dropPeer (p : Port) : Port :=
  { outgoing := { p.outgoing.close with items := [] }, events := p.events.finish }

end Port

end RpcLink.Native
