import RpcLink.Exchange.Switchboard
import RpcLink.ExitStatus
import RpcLink.Framing.LogLines

/-!
A channel to a server that reads lines and writes lines. Somebody watches the server: reads its
output, then waits for its end, and closes the channel with the reason for it. A server that goes
on without its output can answer nothing, so after a short time the channel is closed although
the server has not ended.

A channel has the place in its list that its exchange has on the switchboard.
-/

namespace RpcLink.Pipe

/-- The reason for which an owner closes its channel. -/
def stopReason : String := "client stopped"

/-- How long a server may go on without its output, in nanoseconds. -/
def outputGrace : Nat := 250000000

/-- How far the watch over a server is. -/
inductive Watch where
  /-- The output is read. -/
  | reading (buffer : Framing.LineBuffer)
  /-- The end of the server is waited for. `patient` as long as the server may go on. -/
  | waiting (patient : Bool)
  | over
  /-- It looked at a signal that it had seen before, and broke down. -/
  | broken
deriving DecidableEq

/-- A signal that the server is to be killed. It is given at most once. -/
inductive KillSignal where
  | awaited
  | given
  /-- It was seen, and must not be looked at again. -/
  | seen
deriving DecidableEq

namespace KillSignal

/-- The owner gives the signal, unless it has. -/
def give : KillSignal → KillSignal
  | awaited => given
  | s => s

/-- Look whether the signal was given. Nothing comes of it once it was seen. -/
def look? : KillSignal → Option (Bool × KillSignal)
  | awaited => some (false, awaited)
  | given => some (true, seen)
  | seen => none

end KillSignal

/-- What can happen to a channel. -/
inductive Event where
  /-- The server wrote bytes. -/
  | output (bytes : List UInt8)
  /-- The output ended. -/
  | outputEnded
  /-- The time is up that a server may go on without its output. -/
  | graceOver
  /-- The owner wants the server killed, or lets go of the channel. -/
  | kill
  /-- The server ended. The watch may still read what it wrote before. -/
  | exited (status : ExitStatus)

structure Channel where
  /-- The server's program. -/
  program : String
  watch : Watch
  signal : KillSignal := .awaited
  /-- The watch has seen the signal, and had the server killed. -/
  killed : Bool := false
  /-- How the server ended. -/
  ended : Option ExitStatus := none
  /-- The owner is about to close the channel. -/
  stopping : Bool := false
  /-- The requests that were written, in order. -/
  written : List Request := []
  log : Framing.LogLines := { ending := .all }

namespace Channel

/-- The channel to a server that was just started. -/
def opened (program : String) (limit : Nat) : Channel :=
  { program, watch := .reading { limit } }

/-- The reason for which a channel closes whose server ended. -/
def exitReason (ch : Channel) (status : ExitStatus) : String :=
  if ch.stopping then stopReason else status.reason ch.program

/-- Whether nobody watches the server any more. -/
def isOver (ch : Channel) : Bool := ch.watch = .over ∨ ch.watch = .broken

/-- What happened, as far as it can be found out later. -/
def note (ch : Channel) : Event → Channel
  | .kill => { ch with signal := ch.signal.give }
  | .exited status => { ch with ended := ch.ended.or (some status) }
  | .output _ | .outputEnded | .graceOver => ch

/-- The watch looks whether the server is to be killed. -/
def look? (ch : Channel) : Option Channel :=
  ch.signal.look?.map fun (killed, signal) => { ch with signal, killed }

/-- The watch looks whether the server is to be killed, unless it has had that done. -/
def lookOnce? (ch : Channel) : Option Channel := if ch.killed then some ch else ch.look?

/-- The watch waits for the end of the server, which may have come long before. -/
def await (ch : Channel) (x : Nat) (b : Switchboard) (patient : Bool) : Channel × Switchboard :=
  match ch.ended with
  | some status => ({ ch with watch := .over }, (b.abort x (ch.exitReason status)).2)
  | none => ({ ch with watch := .waiting patient }, b)

/-- The watch, which reads the output, looks whether the server is to be killed, and reads no more
if it is. -/
def heed (ch : Channel) (x : Nat) (b : Switchboard) : Channel × Switchboard :=
  match ch.look? with
  | none => ({ ch with watch := .broken }, b)
  | some ch => if ch.killed then ch.await x b false else (ch, b)

/-- Something happens while the output is read. A signal is seen as soon as it is given, so there is
none to look for when output comes. -/
def stepReading (ch : Channel) (buffer : Framing.LineBuffer) (x : Nat) (b : Switchboard) :
    Event → Channel × Switchboard
  | .output bytes =>
    let (frames, buffer) := buffer.feed bytes
    ({ ch with watch := .reading buffer }, b.dispatchAll x frames)
  | .outputEnded => ch.await x b true
  | .graceOver | .kill | .exited _ => ch.heed x b

/-- The watch waits on. Calls to a server that has gone on without its output for too long are
rejected. -/
def waitOn (ch : Channel) (patient : Bool) (x : Nat) (b : Switchboard) (e : Event) :
    Channel × Switchboard :=
  match patient, e with
  | true, .graceOver =>
    let ch := { ch with watch := .waiting false }
    if ch.stopping then (ch, b) else (ch, (b.abort x s!"{ch.program} closed stdout").2)
  | _, _ => ch.await x b patient

/-- Something happens while the end of the server is waited for. -/
def stepWaiting (ch : Channel) (patient : Bool) (x : Nat) (b : Switchboard) (e : Event) :
    Channel × Switchboard :=
  match ch.lookOnce? with
  | none => ({ ch with watch := .broken }, b)
  | some ch => ch.waitOn patient x b e

/-- Something happens to the channel whose exchange is at a place. That the server ended shows only
when its output is over, and once the watch is over nothing shows. -/
def step (ch : Channel) (x : Nat) (b : Switchboard) (e : Event) : Channel × Switchboard :=
  match ch.watch with
  | .reading buffer => (ch.note e).stepReading buffer x b e
  | .waiting patient => (ch.note e).stepWaiting patient x b e
  | .over | .broken => (ch, b)

/-- The server wrote to its log. -/
def logged (ch : Channel) (b : Switchboard) (bytes : List UInt8) : Channel × Switchboard :=
  let (lines, log) := ch.log.feed bytes
  ({ ch with log }, lines.foldl (fun b line => b.observe (.logged line)) b)

/-- The server's log ended. -/
def logEnded (ch : Channel) (b : Switchboard) : Channel × Switchboard :=
  let (lines, log) := ch.log.finish
  ({ ch with log }, lines.foldl (fun b line => b.observe (.logged line)) b)

end Channel

end RpcLink.Pipe
