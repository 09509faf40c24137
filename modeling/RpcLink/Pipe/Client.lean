import RpcLink.ChannelState
import RpcLink.Config.Hosts
import RpcLink.FairLock
import RpcLink.Pipe.Channel
import RpcLink.Wire.Relay

/-!
The client of a server that is started as a program. It starts one when a call needs it, greets
it, and uses it until it ends or is stopped. Tasks run side by side, and each step of a task is
taken as a whole: a task goes on until it has to wait, for the lock that guards starting and
stopping, for its request to be written, for a response, or for the end of a server.
-/

namespace RpcLink.Pipe

/-- What a task is to do. -/
inductive Job where
  /-- Have a channel open. -/
  | start
  /-- Call a method, within the configured time if `limited`. -/
  | call (method : String) (params : Json) (limited : Bool)
  /-- Relay the message of a user interface. -/
  | relay (message : Json)
  /-- Stop the server. -/
  | stop
deriving DecidableEq

/-- How a task ended. -/
inductive Outcome where
  | started (result : Except Failure Unit)
  | response (result : Except Failure Response)
  | reply (message : Json)
  | stopped

/-- What a request is written for. -/
inductive Purpose where
  /-- To greet a server that was just started. -/
  | greeting
  /-- To make the call of a job. -/
  | call
  /-- To ask a server to end. -/
  | shutdown
deriving DecidableEq

/-- How far a task is. -/
inductive Phase where
  | fresh
  /-- It waits for the lock, or was just given it. -/
  | queued
  /-- A request is being written to a channel. Unless that is its own call, it holds the lock. -/
  | writing (purpose : Purpose) (channel : Nat) (request : Request) (call : Nat)
  /-- It holds the lock and has greeted the server of a channel. -/
  | greeting (channel call : Nat)
  /-- It holds the lock; the greeting failed, and the end of the server is waited for. -/
  | discarding (channel : Nat) (failure : Failure)
  /-- Its request was written to a channel. -/
  | awaiting (channel call : Nat)
  /-- It holds the lock and has asked the server of a channel to end. -/
  | stopping (channel call : Nat)
  /-- It holds the lock, and waits for the end of the server of a channel. -/
  | reaping (channel : Nat)
  | done (outcome : Outcome)
  | cancelled

/-- How far a task is whose request was written. -/
def Purpose.phase (channel call : Nat) : Purpose → Phase
  | .greeting => .greeting channel call
  | .call => .awaiting channel call
  | .shutdown => .stopping channel call

structure Task where
  job : Job
  phase : Phase := .fresh

/-- Whether a program can be started, or why not. -/
abbrev Starter := Launch → Option SystemError

/-- What a task finds when it takes a step. -/
structure Moment where
  starter : Starter
  /-- What came of writing its request: that it was written or cannot be, or nothing yet. -/
  writing : Option (Except SystemError Unit)
  /-- The time for what it waits for is up. -/
  waitOver : Bool
  /-- Its own time is up. -/
  timeUp : Bool

structure Client where
  config : Config
  settings : Settings
  board : Switchboard := {}
  channels : List Channel := []
  /-- The channel that calls use. -/
  current : Option Nat := none
  /-- What the server of the latest channel said of itself. -/
  serverInfo : Option ServerInfo := none
  /-- A server is being started. -/
  connecting : Bool := false
  /-- Some attempt to start a server has run to its end. -/
  opened : Bool := false
  lock : FairLock := {}
  tasks : List Task := []

/-- A failure during the greeting. -/
def greetingFailure : Failure → Failure
  | .handshake m => .handshake m
  | e => .handshake s!"initialize failed: {e.message}"

namespace Job

/-- The call that a job makes, unless it makes none. -/
def ask? : Job → Option Relay.Ask
  | .call method params _ => some ⟨method, params⟩
  | .relay message => (Relay.Ask.decode message).toOption
  | .start | .stop => none

/-- How a job ends with the result of its call. -/
def conclude : Job → Except Failure Response → Outcome
  | .relay _, result => .reply (Relay.Reply.ofResult result).toJson.sorted
  | .start, result => .started (result.map fun _ => ())
  | _, result => .response result

/-- Whether the configured time limits the job. -/
def isLimited : Job → Bool
  | .call _ _ limited => limited
  | _ => false

end Job

namespace Phase

/-- The channel that a task in this phase keeps. -/
def channel? : Phase → Option Nat
  | .writing _ channel _ _ | .greeting channel _ | .discarding channel _ | .awaiting channel _
  | .stopping channel _ | .reaping channel => some channel
  | .fresh | .queued | .done _ | .cancelled => none

def isOver : Phase → Bool
  | .done _ | .cancelled => true
  | _ => false

end Phase

namespace Client

/-- A client to which nothing has happened, if its configuration is accepted. -/
def build (config : Config) (settings : Settings) (pathExists : String → Bool) :
    Except Failure Client := do
  pure { config := ← config.build pathExists, settings }

/-! ### What can be seen of a client -/

/-- The channel, if it is open. -/
def live? (c : Client) : Option Nat :=
  c.current.filter fun x => (c.board.exchange x).isOpen

def state (c : Client) : ChannelState :=
  if c.connecting then .connecting
  else if c.live?.isSome then .ready
  else if c.current.isSome || c.opened then .closed
  else .unconnected

/-- How many calls wait on the channel. -/
def pendingCount (c : Client) : Nat :=
  match c.current with
  | some x => (c.board.exchange x).waiting.length
  | none => 0

/-- Why the channel closed, if it has. -/
def closeReason? (c : Client) : Option String :=
  c.current.bind fun x => (c.board.exchange x).closed

/-! ### Steps of tasks -/

def setPhase (c : Client) (task : Nat) (phase : Phase) : Client :=
  { c with tasks := c.tasks.modify task fun t => { t with phase } }

/-- Give the lock on. -/
def release (c : Client) : Client := { c with lock := c.lock.release }

/-- A task ends with the result of its call. -/
def finish (c : Client) (task : Nat) (job : Job) (result : Except Failure Response) : Client :=
  c.setPhase task (.done (job.conclude result))

/-- A channel with what happened to it. -/
def setChannel (c : Client) (x : Nat) (now : Channel × Switchboard) : Client :=
  { c with channels := c.channels.set x now.1, board := now.2 }

/-- Something happens to a channel. -/
def onChannel (c : Client) (x : Nat) (e : Event) : Client :=
  match c.channels[x]? with
  | some ch => c.setChannel x (ch.step x c.board e)
  | none => c

/-- A request was written to a channel. -/
def onWritten (c : Client) (x : Nat) (r : Request) : Client :=
  { c with channels := c.channels.modify x fun ch => { ch with written := ch.written ++ [r] } }

/-- Whether the watch over a channel's server is over. -/
def isWatchOver (c : Client) (x : Nat) : Bool :=
  match c.channels[x]? with
  | some ch => ch.isOver
  | none => true

/-- An attempt failed, and nothing is left of it. -/
def fail (c : Client) (task : Nat) (job : Job) (e : Failure) : Client :=
  ({ c with connecting := false, opened := true, current := none }).release.finish task job
    (.error e)

/-- Wait for the end of a server whose greeting failed. -/
def awaitDiscarded (c : Client) (task : Nat) (job : Job) (x : Nat) (e : Failure) : Client :=
  if c.isWatchOver x then c.fail task job e else c.setPhase task (.discarding x e)

/-- The greeting of a server failed: its channel is closed and the server killed. -/
def discard (c : Client) (task : Nat) (job : Job) (x : Nat) (e : Failure) : Client :=
  (({ c with board := (c.board.abort x e.message).2 }).onChannel x .kill).awaitDiscarded task job
    x e

/-- Wait for the end of a server that is being stopped. -/
def reap (c : Client) (task x : Nat) : Client :=
  if c.isWatchOver x then c.release.setPhase task (.done .stopped)
  else c.setPhase task (.reaping x)

/-- Reject what still waits on a channel that is being stopped, and kill its server. -/
def closeDown (c : Client) (task x : Nat) : Client :=
  (({ c with board := (c.board.abort x stopReason).2 }).onChannel x .kill).reap task x

/-- A request was not written, and what it was for comes to nothing. -/
def giveUp (c : Client) (task : Nat) (job : Job) (x : Nat) (e : Failure) : Purpose → Client
  | .greeting => c.discard task job x (greetingFailure e)
  | .call => c.finish task job (.error e)
  | .shutdown => c.closeDown task x

/-- Write a request whose call was registered. One that cannot be written leaves nothing behind; the
channel's reason then counts, if it has closed, and else the error. -/
def write (c : Client) (task : Nat) (job : Job) (purpose : Purpose) (x : Nat) (request : Request)
    (call : Nat) : Option (Except SystemError Unit) → Client
  | none => c.setPhase task (.writing purpose x request call)
  | some (.ok ()) => (c.onWritten x request).setPhase task (purpose.phase x call)
  | some (.error e) =>
    let board := (c.board.forget x request.id).2
    let failure :=
      match (board.exchange x).closed with
      | some reason => .channelClosed reason
      | none => .io e
    { c with board }.giveUp task job x failure purpose

/-- Register a call on a channel and write its request. -/
def send (c : Client) (task : Nat) (job : Job) (purpose : Purpose) (x : Nat) (method : String)
    (params : Json) (writing : Option (Except SystemError Unit)) : Client :=
  match c.board.register x method params with
  | (.error e, _) => c.giveUp task job x e purpose
  | (.ok (request, call), board) => { c with board }.write task job purpose x request call writing

/-- A task uses an open channel for its call. -/
def useChannel (c : Client) (task : Nat) (job : Job) (x : Nat)
    (writing : Option (Except SystemError Unit)) : Client :=
  match job.ask? with
  | none => c.setPhase task (.done (.started (.ok ())))
  | some ask => c.send task job .call x ask.method ask.params writing

/-- A server answered the greeting, or did not. -/
def greeted (c : Client) (task : Nat) (job : Job) (x : Nat) (r : Except Failure Response)
    (writing : Option (Except SystemError Unit)) : Client :=
  match r.mapError greetingFailure |>.bind ServerInfo.ofResponse with
  | .error e => c.discard task job x e
  | .ok info =>
    ({ c with
        connecting := false
        opened := true
        current := some x
        serverInfo := some info }).release.useChannel task job x writing

/-- A task that holds the lock starts a server and greets it. -/
def launch (c : Client) (task : Nat) (job : Job) (m : Moment) : Client :=
  let c := { c with connecting := true }
  let launch : Launch := ⟨c.config.command c.settings, c.config.serveArguments⟩
  match m.starter launch with
  | some e => c.fail task job (.ofStart launch.program e)
  | none =>
    let opened := { c with
      channels := c.channels ++ [Channel.opened launch.program c.config.limit]
      board := c.board.openExchange }
    opened.send task job .greeting c.channels.length helloMethod c.config.client.hello m.writing

/-- A task that holds the lock stops the server. -/
def stop (c : Client) (task : Nat) (job : Job) (writing : Option (Except SystemError Unit)) :
    Client :=
  match c.current with
  | none => c.release.setPhase task (.done .stopped)
  | some x =>
    let c := { c with
      current := none
      channels := c.channels.modify x fun ch => { ch with stopping := true } }
    if (c.board.exchange x).isOpen then
      c.send task job .shutdown x shutdownMethod (.object []) writing
    else c.closeDown task x

/-- A task that holds the lock goes on. -/
def withLock (c : Client) (task : Nat) (job : Job) (m : Moment) : Client :=
  match job with
  | .stop => c.stop task job m.writing
  | _ =>
    match c.live? with
    | some x => c.release.useChannel task job x m.writing
    | none => c.launch task job m

/-- A task asks for the lock, and goes on if it is free. -/
def askLock (c : Client) (task : Nat) (job : Job) (m : Moment) : Client :=
  match c.lock.acquire task with
  | (true, lock) => { c with lock }.withLock task job m
  | (false, lock) => { c with lock }.setPhase task .queued

/-- A task that needs a channel begins. -/
def startOnChannel (c : Client) (task : Nat) (job : Job) (m : Moment) : Client :=
  match c.live? with
  | some x => c.useChannel task job x m.writing
  | none => c.askLock task job m

/-- A task begins. A message that asks for no call is refused at once. -/
def begin (c : Client) (task : Nat) (job : Job) (m : Moment) : Client :=
  match job with
  | .stop => c.askLock task job m
  | .relay message =>
    match Relay.Ask.decode message with
    | .error e => c.setPhase task (.done (.reply (Relay.Reply.refused e).toJson.sorted))
    | .ok _ => c.startOnChannel task job m
  | _ => c.startOnChannel task job m

/-- A task goes on as far as it can. -/
def proceed (c : Client) (task : Nat) (t : Task) (m : Moment) : Client :=
  match t.phase with
  | .fresh => c.begin task t.job m
  | .queued => if c.lock.isHeldBy task then c.withLock task t.job m else c
  | .writing purpose x request call => c.write task t.job purpose x request call m.writing
  | .greeting x call =>
    match c.board.poll call with
    | (.done r, board) => { c with board }.greeted task t.job x r m.writing
    | (_, board) =>
      match m.waitOver, c.config.timeout with
      | true, some ns => { c with board := board.settle call }.greeted task t.job x
          (.error (.timeout ns)) m.writing
      | _, _ => c
  | .discarding x e => c.awaitDiscarded task t.job x e
  | .awaiting _ call =>
    match c.board.poll call with
    | (.done r, board) => { c with board }.finish task t.job r
    | _ => c
  | .stopping x call =>
    match c.board.poll call with
    | (.done _, board) => { c with board }.closeDown task x
    | (_, board) => if m.waitOver then { c with board := board.settle call }.closeDown task x else c
  | .reaping x => c.reap task x
  | .done _ | .cancelled => c

/-- A task lets go of what it holds and waits for. Its call stays where it waits. -/
def letGo (c : Client) (task : Nat) : Client :=
  match c.tasks[task]?.map Task.phase with
  | some .queued => { c with lock := c.lock.abandon task }
  | some (.writing .greeting _ _ call) | some (.greeting _ call) =>
    { c with connecting := false, lock := c.lock.abandon task, board := c.board.settle call }
  | some (.discarding ..) => { c with connecting := false, lock := c.lock.abandon task }
  | some (.writing .call _ _ call) | some (.awaiting _ call) =>
    { c with board := c.board.settle call }
  | some (.writing .shutdown _ _ call) | some (.stopping _ call) =>
    { c with lock := c.lock.abandon task, board := c.board.settle call }
  | some (.reaping _) => { c with lock := c.lock.abandon task }
  | _ => c

/-- Whether somebody keeps a channel. -/
def isKept (c : Client) (x : Nat) : Bool :=
  c.current == some x || c.tasks.any fun t => t.phase.channel? == some x

/-- Channels that nobody keeps are let go of, which kills their servers. -/
def sweep (c : Client) : Client :=
  (List.range c.channels.length).foldl
    (fun c x => if c.isKept x then c else c.onChannel x .kill) c

/-- Whether a task has come to its end. -/
def isOver (c : Client) (task : Nat) : Bool :=
  match c.tasks[task]? with
  | some t => t.phase.isOver
  | none => true

/-- One step of a task. If its own time is up and it still has to wait, it ends. -/
def step (c : Client) (task : Nat) (m : Moment) : Client :=
  match c.tasks[task]? with
  | none => c
  | some t =>
    let c := c.proceed task t m
    let c :=
      match c.config.timeout with
      | some ns =>
        if m.timeUp && t.job.isLimited && !c.isOver task then
          (c.letGo task).setPhase task (.done (.response (.error (.timeout ns))))
        else c
      | none => c
    c.sweep

/-- A task is dropped where it stands. -/
def cancel (c : Client) (task : Nat) : Client :=
  if c.isOver task then c else ((c.letGo task).setPhase task .cancelled).sweep

/-- A further task. -/
def spawn (c : Client) (job : Job) : Client :=
  { c with tasks := c.tasks ++ [{ job }] }

/-- A channel is used without a task: a call is registered, and its request written at once. -/
def submit (c : Client) (x : Nat) (method : String) (params : Json) :
    Except Failure (Request × Nat) × Client :=
  match c.board.register x method params with
  | (.error e, _) => (.error e, c)
  | (.ok (request, call), board) => (.ok (request, call), { c with board }.onWritten x request)

end Client

end RpcLink.Pipe
