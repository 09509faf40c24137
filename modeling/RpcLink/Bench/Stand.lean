import RpcLink.Bench.Pipes
import RpcLink.Bench.Ports
import RpcLink.Wire.Transport

/-!
A client on a bench, over either transport, and the time there. Whoever stands at the bench gives
the client something to do, waits for something to hold, and looks.
-/

namespace RpcLink.Bench

/-- Something for a client to do. -/
inductive Errand where
  /-- Have a channel open. -/
  | start
  | call (method : String) (params : Json) (limited : Bool)
  | relay (message : Json)
  /-- Give up the channel or the connection. -/
  | stop

namespace Errand

def pipeJob : Errand → Pipe.Job
  | .start => .start
  | .call method params limited => .call method params limited
  | .relay message => .relay message
  | .stop => .stop

/-- A client of native hosts does nothing only to have a connection. -/
def nativeJob? : Errand → Option Native.Job
  | .start => none
  | .call method params limited => some (.call method params limited)
  | .relay message => some (.relay message)
  | .stop => some .disconnect

end Errand

structure Stand where
  side : Pipes ⊕ Ports
  now : Nat := 0

namespace Stand

/-- A client that has done nothing yet. -/
def opened (transport : Transport) (config : Config) (settings : Settings) (hosts : Hosts)
    (place : Place) (script : Script) : Stand where
  side :=
    match transport with
    | .stdio => .inl { client := { config, settings }, place, script }
    | .native => .inr { client := { config, settings }, hosts, place, script }

def board (s : Stand) : Switchboard :=
  match s.side with
  | .inl p => p.client.board
  | .inr p => p.client.board

def state (s : Stand) : ChannelState :=
  match s.side with
  | .inl p => p.client.state
  | .inr p => p.client.state

def pendingCount (s : Stand) : Nat :=
  match s.side with
  | .inl p => p.client.pendingCount
  | .inr p => p.client.pendingCount

/-- The host of the open connection, over ports. -/
def host? (s : Stand) : Option String :=
  match s.side with
  | .inl _ => none
  | .inr p => p.client.host?

/-- What the server said of itself, over pipes. -/
def serverInfo? (s : Stand) : Option ServerInfo :=
  match s.side with
  | .inl p => p.client.serverInfo
  | .inr _ => none

/-- Why the channel closed, over pipes. -/
def closeReason? (s : Stand) : Option String :=
  match s.side with
  | .inl p => p.client.closeReason?
  | .inr _ => none

/-- Whether there is an open channel or connection. -/
def isLive (s : Stand) : Bool :=
  match s.side with
  | .inl p => p.client.live?.isSome
  | .inr p => p.client.live?.isSome

/-- The lines that servers wrote to their logs. -/
def logged (s : Stand) : List String :=
  s.board.log.filterMap fun
    | .logged line => some line
    | _ => none

/-- How a task ended. -/
def outcome? (s : Stand) (task : Nat) : Option Pipe.Outcome :=
  match s.side with
  | .inl p =>
    match p.client.tasks[task]?.map Pipe.Task.phase with
    | some (.done o) => some o
    | _ => none
  | .inr p =>
    match p.client.tasks[task]?.map Native.Task.phase with
    | some (.done (.response r)) => some (.response r)
    | some (.done (.reply message)) => some (.reply message)
    | some (.done .disconnected) => some .stopped
    | _ => none

/-- Whether a task waits for a response or has come to its end. -/
def isUnderWay (s : Stand) (task : Nat) : Bool :=
  match s.side with
  | .inl p =>
    match p.client.tasks[task]?.map Pipe.Task.phase with
    | some (.awaiting ..) | some (.done _) => true
    | _ => false
  | .inr p =>
    match p.client.tasks[task]?.map Native.Task.phase with
    | some (.awaiting _) | some (.done _) => true
    | _ => false

/-- Give the client something to do: its task. -/
def spawn (s : Stand) (e : Errand) : Nat × Stand :=
  match s.side with
  | .inl p =>
    (p.client.tasks.length, { s with side := .inl { p with client := p.client.spawn e.pipeJob } })
  | .inr p =>
    (p.client.tasks.length,
      match e.nativeJob? with
      | some job => { s with side := .inr { p with client := p.client.spawn job } }
      | none => s)

/-- Give the client several things to do at once. -/
def spawnAll (s : Stand) : List Errand → List Nat × Stand
  | [] => ([], s)
  | e :: rest =>
    let (task, s) := s.spawn e
    let (tasks, s) := s.spawnAll rest
    (task :: tasks, s)

/-- Drop tasks where they stand. -/
def cancelAll (s : Stand) (tasks : List Nat) : Stand :=
  match s.side with
  | .inl p => { s with side := .inl { p with client := tasks.foldl Pipe.Client.cancel p.client } }
  | .inr p => { s with side := .inr { p with client := tasks.foldl Native.Client.cancel p.client } }

/-- Set a setting, or remove it. -/
def put (s : Stand) (key : String) (value : Option String) : Stand :=
  match s.side with
  | .inl p =>
    let client := { p.client with settings := p.client.settings.put key value }
    { s with side := .inl { p with client } }
  | .inr p =>
    let client := { p.client with settings := p.client.settings.put key value }
    { s with side := .inr { p with client } }

/-- Let time pass until something holds, or for so many nanoseconds: whether it holds. -/
def waitFor (s : Stand) (ns : Nat) (holds : Stand → Bool) : Bool × Stand :=
  match s.side with
  | .inl p =>
    let (held, now, p) :=
      Pipes.scene.waitFor (fun p => holds { s with side := .inl p }) (s.now + ns) s.now p
    (held, { side := .inl p, now })
  | .inr p =>
    let (held, now, p) :=
      Ports.scene.waitFor (fun p => holds { s with side := .inr p }) (s.now + ns) s.now p
    (held, { side := .inr p, now })

/-- Give the client several things to do and wait for them: how they ended. What has not ended in
time is dropped. -/
def runAll (s : Stand) (ns : Nat) (errands : List Errand) :
    Option (List Pipe.Outcome) × Stand :=
  let (tasks, s) := s.spawnAll errands
  let (held, s) := s.waitFor ns fun s => tasks.all fun t => (s.outcome? t).isSome
  if held then (some (tasks.filterMap s.outcome?), s) else (none, s.cancelAll tasks)

end Stand

end RpcLink.Bench
