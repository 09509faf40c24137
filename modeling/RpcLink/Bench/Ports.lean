import RpcLink.Bench.Place
import RpcLink.Bench.Scene
import RpcLink.Bench.Server
import RpcLink.Native.Carrier
import RpcLink.Native.Client

/-!
A bench for the client of native hosts that are started as programs. The hosts follow a script,
and what they write arrives at once.
-/

namespace RpcLink.Bench

open Native

structure Ports where
  client : Client
  hosts : Hosts := {}
  place : Place := {}
  script : Script := {}
  /-- The carriers and their servers by the place of their connection. -/
  lines : List (Carrier × Server) := []
  /-- When the time of a task is up. -/
  limits : List (Nat × Nat) := []

namespace Ports

/-- Start the program of a host, if there is one by its name. -/
def launch (s : Ports) (host : String) : Except Failure Launch := do
  let l ← s.hosts.launch s.client.config s.client.settings host
  match s.place.refusal s.client.config l with
  | none => .ok l
  | some e => .error (.ofStart l.program e)

/-- The line to a host that was just started. -/
def newLine (s : Ports) (host : String) : Carrier × Server :=
  let c := s.client.config
  let directory := (s.place.directoryFor c).toOption.getD []
  let l := (s.launch host).toOption.getD ⟨"", []⟩
  (.opened l.program c.limit,
    .started s.script l.arguments (Place.pathOf directory)
      (c.serverVariables s.place.vars))

/-- A task takes a step. Its time is set when it begins. -/
def stepTask (now : Nat) (s : Ports) (task : Nat) : Ports :=
  let before := s.client.tasks[task]?
  let limits := s.limits
  let dial : Dial := fun host => some ((s.launch host).map fun _ => .untouched)
  let client := s.client.step task dial ((limits.lookup task).any (· ≤ now))
  let limits :=
    match before, client.config.timeout with
    | some { job, phase := .fresh }, some ns =>
      if job.isLimited && !client.isOver task then limits ++ [(task, now + ns)] else limits
    | _, _ => limits
  let lines := (client.links.drop s.lines.length).map fun l => s.newLine l.host
  { s with client, limits, lines := s.lines ++ lines }

/-- Whether somebody holds a connection: the client, or a task that waits on it. -/
def isHeld (c : Client) (link : Nat) : Bool :=
  c.current == some link || c.tasks.any fun t =>
    match t.phase with
    | .awaiting call => (c.board.calls[call]?.map Call.exchange) == some link
    | _ => false

/-- Something happens to a carrier. -/
def onCarrier (s : Ports) (link : Nat) (e : HostEvent) : Ports :=
  match s.lines[link]?, s.client.links[link]? with
  | some (carrier, server), some l =>
    let (carrier, port, seen) := carrier.step l.port e
    let client := { s.client with
      links := s.client.links.set link { l with port }
      board := seen.foldl Switchboard.observe s.client.board }
    { s with client, lines := s.lines.set link (carrier, server) }
  | _, _ => s

/-- A host's log goes on, or ends if the host has ended. -/
def readLog (s : Ports) (link : Nat) (chunks : List (List UInt8)) (ended : Bool) : Ports :=
  match s.lines[link]? with
  | none => s
  | some (carrier, server) =>
    let (lines, log) := chunks.foldl
      (fun acc chunk =>
        let (more, log) := acc.2.feed chunk
        (acc.1 ++ more, log))
      (([] : List String), carrier.log)
    let (last, log) := if ended then log.finish else ([], log)
    let board := (lines ++ last).foldl (fun b line => b.observe (.logged line)) s.client.board
    { s with
      client := { s.client with board }
      lines := s.lines.set link ({ carrier with log }, server) }

/-- What a host did reaches its carrier. -/
def readServer (s : Ports) (link : Nat) (carrier : Carrier) (server : Server) : Ports :=
  let (chunks, server) := server.takeOutput
  let (log, server) := server.takeLog
  let (status, server) := server.takeEnd
  let s := { s with lines := s.lines.set link (carrier, server) }
  let s := chunks.foldl (fun s chunk => s.onCarrier link (.output chunk)) s
  let s := s.readLog link log server.status.isSome
  let s := if server.outputOpen then s else s.onCarrier link .outputEnded
  match status with
  | some status => s.onCarrier link (.exited status)
  | none => s

/-- Whether nothing more is written to a host. -/
def isClosing (k : Carrier) : Bool :=
  match k.carriage with
  | .carrying _ => false
  | _ => true

/-- A host is given its messages, is killed if that is wanted, and goes on; then the client
takes the events of its port. -/
def stepLine (now : Nat) (s : Ports) (link : Nat) : Ports :=
  let s := if isHeld s.client link then s else s.onCarrier link .unheld
  match s.lines[link]?, s.client.links[link]? with
  | some (carrier, server), some l =>
    let (packets, port) := carrier.collect l.port
    let s := { s with
      client := { s.client with links := s.client.links.set link { l with port } } }
    let server := packets.foldl Server.receive server
    let server := { server with inputEnded := server.inputEnded || isClosing carrier }
    let server := if carrier.isKilling then server.kill else server.run now
    let s := s.readServer link carrier server
    { s with client := s.client.attend link }
  | _, _ => s

/-- Every task and every host takes a step. -/
def round (now : Nat) (s : Ports) : Ports :=
  let s := (List.range s.client.tasks.length).foldl (stepTask now) s
  (List.range s.client.links.length).foldl (stepLine now) s

/-- Rounds enough for all that can happen at one time. -/
def bound (s : Ports) : Nat := 4 * s.client.tasks.length + 8

/-- All that can happen at a time. -/
def settle (now : Nat) (s : Ports) : Ports :=
  (List.range s.bound).foldl (fun s _ => s.round now) s

/-- The next time at which something is due. -/
def next? (now : Nat) (s : Ports) : Option Nat :=
  firstAfter now (s.limits.map Prod.snd ++ s.lines.filterMap fun line => line.2.wake)

def scene : Scene Ports := ⟨settle, next?⟩

end Ports

end RpcLink.Bench
