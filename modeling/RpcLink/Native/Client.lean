import RpcLink.ChannelState
import RpcLink.Config.Basic
import RpcLink.Exchange.Switchboard
import RpcLink.FairLock
import RpcLink.Native.Port
import RpcLink.Wire.Relay

/-!
The client of a native host. It connects when a call needs it and keeps the connection until the
host ends it. Tasks run side by side, and each step of a task is taken as a whole: a task goes on
until it has to wait, for the lock that guards connecting, for the connector, or for a response.

A connection has the place in the list of links that its exchange has on the switchboard.
-/

namespace RpcLink.Native

/-- One connection to a host. -/
structure Link where
  /-- The name under which the host was asked for. -/
  host : String
  port : Port := {}
  /-- The events of the port are still taken. -/
  attended : Bool := true
deriving DecidableEq

/-- What a task is to do. -/
inductive Job where
  /-- Call a method, within the configured time if `limited`. -/
  | call (method : String) (params : Json) (limited : Bool)
  /-- Relay the message of a user interface. -/
  | relay (message : Json)
  /-- Give up the connection. -/
  | disconnect
deriving DecidableEq

/-- How a task ended. -/
inductive Outcome where
  | response (result : Except Failure Response)
  | reply (message : Json)
  | disconnected

/-- How far a task is. -/
inductive Phase where
  | fresh
  /-- It waits for the lock, or was just given it. -/
  | queued
  /-- It holds the lock, and the connector is asked for a host. -/
  | opening (host : String)
  /-- Its request was posted, and its call is at this place on the switchboard. -/
  | awaiting (call : Nat)
  | done (outcome : Outcome)
  | cancelled

structure Task where
  job : Job
  phase : Phase := .fresh

/-- What the connector says of a host: a port or why there is none, or nothing yet. -/
abbrev Dial := String → Option (Except Failure FreshPort)

structure Client where
  config : Config
  settings : Settings
  board : Switchboard := {}
  links : List Link := []
  /-- The connection that calls use. -/
  current : Option Nat := none
  /-- The connector is being asked. -/
  connecting : Bool := false
  /-- Some attempt to connect has run to its end. -/
  opened : Bool := false
  lock : FairLock := {}
  tasks : List Task := []
  /-- The hosts that the connector was asked for, in order. -/
  dialled : List String := []

/-- Why the calls of a client end that gives up its connection. -/
def disconnectReason : String := "client disconnected"

/-- Why calls end when the host's side is gone without a word. -/
def lostReason : String := "native port closed"

namespace Job

/-- The call that a job makes, unless it makes none. -/
def ask? : Job → Option Relay.Ask
  | .call method params _ => some ⟨method, params⟩
  | .relay message => (Relay.Ask.decode message).toOption
  | .disconnect => none

/-- How a job ends when its call has a result. -/
def conclude : Job → Except Failure Response → Outcome
  | .relay _, result => .reply (Relay.Reply.ofResult result).toJson.sorted
  | _, result => .response result

/-- Whether the configured time limits the job. -/
def isLimited : Job → Bool
  | .call _ _ limited => limited
  | _ => false

end Job

/-- Whether a task has come to its end. -/
def Task.isOver (t : Task) : Bool :=
  match t.phase with
  | .done _ | .cancelled => true
  | _ => false

namespace Client

/-- A client to which nothing has happened, if its configuration is accepted. -/
def build (config : Config) (settings : Settings) (pathExists : String → Bool) :
    Except Failure Client := do
  pure { config := ← config.build pathExists, settings }

/-! ### What can be seen of a client -/

/-- The connection, if it is open. -/
def live? (c : Client) : Option Nat :=
  c.current.filter fun link => (c.board.exchange link).isOpen

def state (c : Client) : ChannelState :=
  if c.connecting then .connecting
  else if c.live?.isSome then .ready
  else if c.opened then .closed
  else .unconnected

/-- The host of the open connection. -/
def host? (c : Client) : Option String :=
  c.live?.bind fun link => c.links[link]?.map Link.host

/-- How many calls wait on the connection. -/
def pendingCount (c : Client) : Nat :=
  match c.current with
  | some link => (c.board.exchange link).waiting.length
  | none => 0

/-- The client as text. -/
def text (c : Client) : String :=
  let host :=
    match c.host? with
    | some name => s!"Some({Text.quoted name})"
    | none => "None"
  s!"HostClient \x7b state: {c.state.title}, host: {host}, .. \x7d"

/-! ### Steps of tasks -/

def setPhase (c : Client) (task : Nat) (phase : Phase) : Client :=
  { c with tasks := c.tasks.modify task fun t => { t with phase } }

/-- Give the lock on. -/
def release (c : Client) : Client := { c with lock := c.lock.release }

/-- A task ends with the result of its call. -/
def finish (c : Client) (task : Nat) (job : Job) (result : Except Failure Response) : Client :=
  c.setPhase task (.done (job.conclude result))

/-- Register a task's call on a connection and post its request. A request that is too long or
that cannot be posted leaves nothing behind. -/
def send (c : Client) (task link : Nat) (job : Job) (ask : Relay.Ask) : Client :=
  match c.board.register link ask.method ask.params with
  | (.error e, _) => c.finish task job (.error e)
  | (.ok (request, call), board) =>
    let withdrawn := { c with board := (board.forget link request.id).2 }
    let length := request.toJson.byteLength
    if c.config.limit < length then
      withdrawn.finish task job (.error (.frameTooLarge length c.config.limit))
    else
      match (c.links[link]?.map Link.port).getD {} |>.post request.toJson.sorted with
      | (.error e, _) => withdrawn.finish task job (.error e)
      | (.ok (), port) =>
        { c with board, links := c.links.modify link fun l => { l with port } }.setPhase task
          (.awaiting call)

/-- The attempt of a task ended, or goes on. -/
def concludeAttempt (c : Client) (task : Nat) (job : Job) (ask : Relay.Ask) (host : String) :
    Option (Except Failure FreshPort) → Client
  | none => c
  | some (.error e) =>
    ({ c with connecting := false, opened := true, current := none }).release.finish task job
      (.error e)
  | some (.ok fresh) =>
    let link : Link := { host, port := fresh.toPort }
    ({ c with
        connecting := false
        opened := true
        links := c.links ++ [link]
        board := c.board.openExchange
        current := some c.links.length }).release.send task c.links.length job ask

/-- A task that holds the lock uses the connection that there is by now, or asks for one. -/
def connect (c : Client) (task : Nat) (job : Job) (ask : Relay.Ask) (dial : Dial) : Client :=
  match c.live? with
  | some link => c.release.send task link job ask
  | none =>
    let host := c.config.hostName c.settings
    (({ c with connecting := true, dialled := c.dialled ++ [host] }).setPhase task
      (.opening host)).concludeAttempt task job ask host (dial host)

/-- A task that holds the lock gives up the connection. -/
def disconnect (c : Client) (task : Nat) : Client :=
  let c :=
    match c.current with
    | some link => { c with current := none, board := (c.board.abort link disconnectReason).2 }
    | none => c
  c.release.setPhase task (.done .disconnected)

/-- A task that holds the lock goes on. -/
def withLock (c : Client) (task : Nat) (job : Job) (dial : Dial) : Client :=
  match job.ask? with
  | some ask => c.connect task job ask dial
  | none => c.disconnect task

/-- A task asks for the lock, and goes on if it is free. -/
def askLock (c : Client) (task : Nat) (job : Job) (dial : Dial) : Client :=
  match c.lock.acquire task with
  | (true, lock) => { c with lock }.withLock task job dial
  | (false, lock) => { c with lock }.setPhase task .queued

/-- A task begins. A message that asks for no call is refused at once. -/
def start (c : Client) (task : Nat) (job : Job) (dial : Dial) : Client :=
  match job with
  | .disconnect => c.askLock task job dial
  | .call method params _ =>
    match c.live? with
    | some link => c.send task link job ⟨method, params⟩
    | none => c.askLock task job dial
  | .relay message =>
    match Relay.Ask.decode message with
    | .error e => c.setPhase task (.done (.reply (Relay.Reply.refused e).toJson.sorted))
    | .ok ask =>
      match c.live? with
      | some link => c.send task link job ask
      | none => c.askLock task job dial

/-- A task goes on as far as it can. -/
def proceed (c : Client) (task : Nat) (t : Task) (dial : Dial) : Client :=
  match t.phase with
  | .fresh => c.start task t.job dial
  | .queued => if c.lock.isHeldBy task then c.withLock task t.job dial else c
  | .opening host =>
    match t.job.ask? with
    | some ask => c.concludeAttempt task t.job ask host (dial host)
    | none => c
  | .awaiting call =>
    match c.board.poll call with
    | (.done result, board) => { c with board }.finish task t.job result
    | _ => c
  | .done _ | .cancelled => c

/-- A task lets go of what it holds and waits for. Its call stays where it waits. -/
def letGo (c : Client) (task : Nat) : Client :=
  match c.tasks[task]?.map Task.phase with
  | some .queued => { c with lock := c.lock.abandon task }
  | some (.opening _) => { c with connecting := false, lock := c.lock.abandon task }
  | some (.awaiting call) => { c with board := c.board.settle call }
  | _ => c

/-- Whether a task has come to its end. -/
def isOver (c : Client) (task : Nat) : Bool :=
  match c.tasks[task]? with
  | some t => t.isOver
  | none => true

/-- One step of a task. If its time is up and it still has to wait, it ends. -/
def step (c : Client) (task : Nat) (dial : Dial) (timeUp : Bool) : Client :=
  match c.tasks[task]? with
  | none => c
  | some t =>
    let c := c.proceed task t dial
    match c.config.timeout with
    | some ns =>
      if timeUp && t.job.isLimited && !c.isOver task then
        (c.letGo task).setPhase task (.done (.response (.error (.timeout ns))))
      else c
    | none => c

/-- A task is dropped where it stands. -/
def cancel (c : Client) (task : Nat) : Client :=
  if c.isOver task then c else (c.letGo task).setPhase task .cancelled

/-- A further task. -/
def spawn (c : Client) (job : Job) : Client :=
  { c with tasks := c.tasks ++ [{ job }] }

/-! ### Events of ports -/

/-- A connection ends: its calls are rejected, and the client forgets it if it is the current
one. -/
def endLink (c : Client) (link : Nat) (reason : String) : Client :=
  { c with
    board := (c.board.abort link reason).2
    current := if c.current = some link then none else c.current
    links := c.links.modify link fun l =>
      let events := { l.port.events.close with items := [] }
      { l with attended := false, port := { l.port with events } } }

/-- Take events of a connection in order, up to its end if that is among them or known. -/
def takeEvents (c : Client) (link : Nat) (ended : Bool) : List PortEvent → Client
  | [] => if ended then c.endLink link lostReason else c
  | .message v :: rest =>
    { c with board := c.board.dispatch link (.message v) }.takeEvents link ended rest
  | .disconnected reason :: _ => c.endLink link reason

/-- Take the events of a connection that are there, or the first few of them. To learn that nothing
follows counts as one more. -/
def attend (c : Client) (link : Nat) (most : Option Nat := none) : Client :=
  match c.links[link]? with
  | none => c
  | some l =>
    if l.attended then
      let items := l.port.events.items
      let count := most.getD (items.length + 1)
      let events := { l.port.events with items := items.drop count }
      { c with links := c.links.modify link fun l => { l with port := { l.port with events } } }
        |>.takeEvents link (l.port.events.ended && items.length < count) (items.take count)
    else c

/-- The host's side of a connection does something, unless it is gone. -/
def onPort {α : Type} (c : Client) (link : Nat) (act : Port → α × Port) (absent : α) :
    α × Client :=
  match c.links[link]? with
  | none => (absent, c)
  | some l =>
    if l.port.events.ended then (absent, c)
    else
      let (a, port) := act l.port
      (a, { c with links := c.links.modify link fun l => { l with port } })

end Client

end RpcLink.Native
