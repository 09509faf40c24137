import RpcLink.Bench.Place
import RpcLink.Bench.Scene
import RpcLink.Bench.Server
import RpcLink.Pipe.Client

/-!
A bench for the client of servers that are started as programs. The servers follow a script, and
what they write arrives at once.
-/

namespace RpcLink.Bench

open Pipe

structure Pipes where
  client : Client
  place : Place := {}
  script : Script := {}
  /-- The servers by the place of their channel. -/
  servers : List Server := []
  /-- How many requests on each channel have reached its server. -/
  delivered : List Nat := []
  /-- When the time of a task is up. -/
  limits : List (Nat × Nat) := []
  /-- When what a task waits for takes too long. -/
  waits : List (Nat × Nat) := []
  /-- When a server has gone on without its output for too long. -/
  graces : List (Nat × Nat) := []

/-- Whether a time that was set for something has come. -/
def hasCome (now : Nat) (times : List (Nat × Nat)) (i : Nat) : Bool :=
  (times.lookup i).any (· ≤ now)

/-- The most bytes that are read at once. -/
def readSize : Nat := 8192

/-- Bytes in stretches of at most that size. -/
def stretches (bytes : List UInt8) : List (List UInt8) :=
  if _h : bytes.length ≤ readSize then [bytes]
  else bytes.take readSize :: stretches (bytes.drop readSize)
termination_by bytes.length
decreasing_by simp only [List.length_drop, readSize] at *; omega

/-- Bytes as they are read. Only the report of a line over a small limit shows what was read at
once; where the limit is larger, all is read at once. -/
def reads (limit : Nat) (bytes : List UInt8) : List (List UInt8) :=
  if readSize ≤ limit then [bytes] else stretches bytes

namespace Pipes

/-- A bench with one open channel, which was not greeted. -/
def withChannel (config : Config) (settings : Settings) (place : Place) (script : Script) :
    Except Failure Pipes :=
  let l : Launch := ⟨config.command settings, config.serveArguments⟩
  match place.refusal config l with
  | some e => .error (.ofStart l.program e)
  | none => .ok {
      client := {
        config
        settings
        board := ({} : Switchboard).openExchange
        channels := [.opened l.program config.limit]
        current := some 0 }
      place
      script }

/-- The phase of a task. -/
def phase (s : Pipes) (task : Nat) : Phase :=
  ((s.client.tasks[task]?).map Task.phase).getD .cancelled

/-- A task takes a step. Times are set for the task as a whole when it begins, and for the
greeting and the stop that it waits for. The time for a greeting is up a little later than the
one for the whole task. -/
def stepTask (now : Nat) (s : Pipes) (task : Nat) : Pipes :=
  let before := s.phase task
  -- Servers take every request at once.
  let client := s.client.step task {
    starter := s.place.refusal s.client.config
    writing := some (.ok ())
    waitOver := hasCome now s.waits task
    timeUp := hasCome now s.limits task }
  let s := { s with client }
  let c := client.config
  let waits :=
    match before, s.phase task with
    | .greeting .., _ | .stopping .., _ => []
    | _, .greeting .. => (c.timeout.map fun ns => (task, now + ns + 1000)).toList
    | _, .stopping .. => [(task, now + c.grace)]
    | _, _ => []
  let limits :=
    match before with
    | .fresh =>
      let limited := client.tasks[task]?.any fun t => t.job.isLimited && !t.phase.isOver
      if limited then (c.timeout.map fun ns => (task, now + ns)).toList else []
    | _ => []
  { s with waits := s.waits ++ waits, limits := s.limits ++ limits }

/-- The server of a channel that was just opened. -/
def newServer (s : Pipes) : Server :=
  let c := s.client.config
  let directory := (s.place.directoryFor c).toOption.getD []
  .started s.script c.serveArguments (Place.pathOf directory)
    (c.serverVariables s.place.vars)

/-- Something happens to a channel. -/
def onChannel (s : Pipes) (x : Nat) (e : Event) : Pipes :=
  { s with client := s.client.onChannel x e }

/-- A server's log goes on, or ends if its server has ended. -/
def readLog (s : Pipes) (x : Nat) (chunks : List (List UInt8)) (ended : Bool) : Pipes :=
  match s.client.channels[x]? with
  | none => s
  | some ch =>
    let now := chunks.foldl (fun acc chunk => acc.1.logged acc.2 chunk) (ch, s.client.board)
    let now := if ended then now.1.logEnded now.2 else now
    { s with client := s.client.setChannel x now }

/-- What a server did reaches its channel. -/
def readServer (s : Pipes) (x : Nat) (server : Server) : Pipes :=
  let (chunks, server) := server.takeOutput
  let (log, server) := server.takeLog
  let (status, server) := server.takeEnd
  let s := { s with servers := s.servers.set x server }
  let chunks := chunks.flatMap (reads s.client.config.limit)
  let s := chunks.foldl (fun s chunk => s.onChannel x (.output chunk)) s
  let s := s.readLog x log server.status.isSome
  let s := if server.outputOpen then s else s.onChannel x .outputEnded
  match status with
  | some status => s.onChannel x (.exited status)
  | none => s

/-- The time is set that a server may go on without its output, and has its effect when it is
up. -/
def watchGrace (now : Nat) (s : Pipes) (x : Nat) : Pipes :=
  match s.client.channels[x]?.map Channel.watch with
  | some (.waiting true) =>
    if (s.graces.lookup x).isNone then { s with graces := s.graces ++ [(x, now + outputGrace)] }
    else if hasCome now s.graces x then s.onChannel x .graceOver
    else s
  | _ => s

/-- A server is given its requests, is killed if that is wanted, and goes on. -/
def stepServer (now : Nat) (s : Pipes) (x : Nat) : Pipes :=
  match s.client.channels[x]? with
  | none => s
  | some ch =>
    let server := s.servers.getD x s.newServer
    let fresh := ch.written.drop (s.delivered.getD x 0)
    let server := fresh.foldl (fun server r => server.receive r.line) server
    let server := if ch.killed then server.kill else server.run now
    let s :=
      if x < s.servers.length then { s with delivered := s.delivered.set x ch.written.length }
      else { s with
        servers := s.servers ++ [server]
        delivered := s.delivered ++ [ch.written.length] }
    (s.readServer x server).watchGrace now x

/-- Every task and every server takes a step. -/
def round (now : Nat) (s : Pipes) : Pipes :=
  let s := (List.range s.client.tasks.length).foldl (stepTask now) s
  (List.range s.client.channels.length).foldl (stepServer now) s

/-- Rounds enough for all that can happen at one time. -/
def bound (s : Pipes) : Nat := 4 * s.client.tasks.length + 8

/-- All that can happen at a time. -/
def settle (now : Nat) (s : Pipes) : Pipes :=
  (List.range s.bound).foldl (fun s _ => s.round now) s

/-- The next time at which something is due. -/
def next? (now : Nat) (s : Pipes) : Option Nat :=
  firstAfter now ((s.limits ++ s.waits ++ s.graces).map Prod.snd ++
    s.servers.filterMap Server.wake)

def scene : Scene Pipes := ⟨settle, next?⟩

end Pipes

end RpcLink.Bench
