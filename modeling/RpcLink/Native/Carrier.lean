import RpcLink.ExitStatus
import RpcLink.Framing.LogLines
import RpcLink.Framing.Packet
import RpcLink.Native.Port
import RpcLink.Observation

/-!
Carriers: what stands between a port and a native host that was started as a program. Messages
that are posted become packets on the host's input, and the packets of its output become events
of the port. When the carrying ends, for whatever reason, the last event of the port tells it.
-/

namespace RpcLink.Native

/-- How far a carrier is. -/
inductive Carriage where
  /-- Packets are carried both ways. -/
  | carrying (reader : Framing.Packet.Reader)
  /-- The output ended between two packets, and the end of the host is waited for. -/
  | leaving
  /-- The host is to be killed, for a reason. -/
  | killing (reason : String)
  | over
deriving DecidableEq

/-- What can happen to a carrier. -/
inductive HostEvent where
  /-- The host wrote bytes. -/
  | output (bytes : List UInt8)
  /-- The output ended. -/
  | outputEnded
  /-- Nobody is left who could post. -/
  | unheld
  /-- A packet could not be written. -/
  | unwritable (failure : Failure)
  /-- The host ended. What it wrote before may still be carried. -/
  | exited (status : ExitStatus)

structure Carrier where
  /-- The host's program. -/
  program : String
  /-- The number of bytes that a message may have. -/
  limit : Nat
  carriage : Carriage
  /-- How the host ended. -/
  ended : Option ExitStatus := none
  log : Framing.LogLines := { ending := .one }

/-- Why a port closes whose host ended by itself. -/
def exitReason (program : String) (status : ExitStatus) : String :=
  if status = .exited 0 then "native host has exited" else status.reason program

namespace Carrier

/-- The carrier for a host that was just started. -/
def opened (program : String) (limit : Nat) : Carrier :=
  { program, limit, carriage := .carrying { limit } }

/-- Whether the host is to be killed. -/
def isKilling (k : Carrier) : Bool :=
  match k.carriage with
  | .killing _ => true
  | _ => false

/-- Hand payloads to the client in order. What is no JSON is reported and passed over. -/
def handOver (p : Port) : List (List UInt8) → Port × List Observation
  | [] => (p, [])
  | payload :: rest =>
    match Json.parseBytes payload with
    | .ok v => handOver (p.notify (.message v)).2 rest
    | .error e =>
      let (p, seen) := handOver p rest
      (p, .malformed (String.ofList (Text.Utf8.lossy payload)) e.message :: seen)

/-- No more messages are taken from the client. -/
def stopTaking (p : Port) : Port :=
  { p with outgoing := { p.outgoing.close with items := [] } }

/-- The host ended: the client is told the reason, and nothing follows. -/
def close (k : Carrier) (p : Port) (reason : String) : Carrier × Port :=
  ({ k with carriage := .over }, (p.notify (.disconnected reason)).2.dropPeer)

/-- Nothing is carried any more, and the end of the host is waited for. It may have come already. -/
def await (k : Carrier) (p : Port) : Carrier × Port :=
  match k.ended, k.carriage with
  | some status, .leaving => k.close p (exitReason k.program status)
  | some _, .killing reason => k.close p reason
  | _, _ => (k, p)

/-- The carrying ends, and the host has to be killed. -/
def kill (k : Carrier) (p : Port) (reason : String) : Carrier × Port :=
  { k with carriage := .killing reason }.await (stopTaking p)

/-- Something happens to the carrier of a port. That the host ended shows only when nothing is
carried any more; what else comes too late changes nothing. -/
def step (k : Carrier) (p : Port) : HostEvent → Carrier × Port × List Observation
  | .output bytes =>
    match k.carriage with
    | .carrying reader =>
      let (payloads, reader) := reader.feed bytes
      let (p, seen) := handOver p payloads
      let k := { k with carriage := .carrying reader }
      match reader.tail with
      | .unusable length =>
        let (k, p) := k.kill p (Failure.frameTooLarge length k.limit).message
        (k, p, seen)
      | .short _ => (k, p, seen)
    | _ => (k, p, [])
  | .outputEnded =>
    match k.carriage with
    | .carrying reader =>
      match reader.tail.ending k.limit none with
      | .clean =>
        let (k, p) := { k with carriage := .leaving }.await (stopTaking p)
        (k, p, [])
      | .failed e =>
        let (k, p) := k.kill p e.message
        (k, p, [])
    | _ => (k, p, [])
  | .unheld =>
    match k.carriage with
    | .carrying _ =>
      let (k, p) := k.kill p "native port closed"
      (k, p, [])
    | _ => (k, p, [])
  | .unwritable e =>
    match k.carriage with
    | .carrying _ =>
      let (k, p) := k.kill p s!"failed to write to native host: {e.message}"
      (k, p, [])
    | _ => (k, p, [])
  | .exited status =>
    let (k, p) := { k with ended := k.ended.or (some status) }.await p
    (k, p, [])

/-- The packet of a message. One over the limit has none and is passed over; nothing of it has
been written, so that the others are not harmed. -/
def packet? (limit : Nat) (message : Json) : Option (List UInt8) :=
  (Framing.Packet.encode message.bytes limit).toOption

/-- Take the messages that were posted: what is written to the host. -/
def collect (k : Carrier) (p : Port) : List (List UInt8) × Port :=
  match k.carriage with
  | .carrying _ =>
    (p.outgoing.items.filterMap (packet? k.limit),
      { p with outgoing := { p.outgoing with items := [] } })
  | _ => ([], p)

end Carrier

end RpcLink.Native
