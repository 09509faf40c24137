import RpcLink.Native.Client

/-!
A bench for the client of a native host: the hosts are in memory and time is counted, in
milliseconds. Tasks run one after the other, in the order in which something happened that they
waited for, and time moves only when none of them can go on.
-/

namespace RpcLink.Bench

open Native

/-- Whose turn it is. -/
inductive Turn where
  | task (task : Nat)
  /-- The one who takes the events of a connection. -/
  | events (link : Nat)
deriving DecidableEq

/-- A time at which a task is woken. -/
structure Alarm where
  tick : Nat
  task : Nat

/-- What the hosts do when they are asked for a connection. -/
structure Reception where
  /-- The hosts that exist; all of them where none are named. -/
  known : Option (List String) := none
  /-- How every attempt fails. -/
  refusal : Option Failure := none
  /-- How long an attempt takes. -/
  delay : Nat := 0

/-- How an attempt ends. -/
def Reception.answer (r : Reception) (host : String) : Except Failure FreshPort :=
  match r.refusal with
  | some e => .error e
  | none =>
    match r.known with
    | some names => if names.contains host then .ok .untouched else .error (.hostNotFound host)
    | none => .ok .untouched

structure InMemory where
  client : Client
  reception : Reception := {}
  now : Nat := 0
  /-- Those who can go on, the next first. -/
  turns : List Turn := []
  /-- The alarms that were set, the oldest first. -/
  alarms : List Alarm := []
  /-- When the attempt to connect ends that is under way. -/
  due : Nat := 0
  /-- When the time of a task is up. -/
  deadlines : List (Nat × Nat) := []

namespace InMemory

/-- Whether something happened for which the taker of a connection's events waits. -/
def eventsReady (l : Link) : Bool :=
  l.attended && (!l.port.events.items.isEmpty || l.port.events.ended)

/-- Whether a task's call was resolved. -/
def callReady (c : Client) (t : Task) : Bool :=
  match t.phase with
  | .awaiting call => (c.board.calls[call]?.bind Call.outcome).isSome
  | _ => false

/-- Whether a task was given the lock. -/
def lockReady (c : Client) (task : Nat) (t : Task) : Bool :=
  match t.phase with
  | .queued => c.lock.isHeldBy task
  | _ => false

/-- All that can go on: takers of events, the holder of the lock, and those whose call was
resolved. -/
def ready (c : Client) : List Turn :=
  let links := c.links.zipIdx.filterMap fun (l, i) =>
    if eventsReady l then some (Turn.events i) else none
  let tasks := c.tasks.zipIdx
  links ++ (tasks.filterMap fun (t, i) => if lockReady c i t then some (Turn.task i) else none) ++
    tasks.filterMap fun (t, i) => if callReady c t then some (Turn.task i) else none

/-- Put those in line who are not. -/
def line (s : InMemory) (turns : List Turn) : InMemory :=
  { s with turns := turns.foldl (fun ts t => if ts.contains t then ts else ts ++ [t]) s.turns }

/-- Put in line whoever can go on. -/
def wake (s : InMemory) : InMemory := s.line (ready s.client)

/-- Milliseconds of a time in nanoseconds, begun ones included. -/
def ticks (ns : Nat) : Nat := (ns + 999999) / 1000000

/-- Whether a task is in the middle of an attempt to connect. -/
def isOpening (c : Client) (task : Nat) : Bool :=
  match c.tasks[task]?.map Task.phase with
  | some (.opening _) => true
  | _ => false

/-- A task takes its turn. Alarms are set for an attempt that it begins, and then for its own
time when it begins. -/
def runTask (s : InMemory) (task : Nat) : InMemory :=
  let wasOpening := isOpening s.client task
  let due := if wasOpening then s.due else s.now + s.reception.delay
  let dial : Dial := fun host =>
    if due ≤ s.now then some (s.reception.answer host) else none
  let timeUp := (s.deadlines.lookup task).any (· ≤ s.now)
  let client := s.client.step task dial timeUp
  let begun : List Alarm :=
    if !wasOpening && isOpening client task then [⟨due, task⟩] else []
  let deadline : Option Nat :=
    match s.client.tasks[task]?, s.client.config.timeout with
    | some { job, phase := .fresh }, some ns =>
      if job.isLimited && !client.isOver task then some (s.now + ticks ns) else none
    | _, _ => none
  { s with
    client
    due := if isOpening client task then due else s.due
    alarms := s.alarms ++ begun ++ (deadline.map fun tick => (⟨tick, task⟩ : Alarm)).toList
    deadlines := s.deadlines ++ (deadline.map fun tick => (task, tick)).toList }

/-- The next in line takes its turn. -/
def turn (s : InMemory) : InMemory :=
  match s.turns with
  | [] => s
  | t :: rest =>
    let s := { s with turns := rest }
    let s :=
      match t with
      | .task task => s.runTask task
      | .events link => { s with client := s.client.attend link }
    s.wake

/-- An upper bound of the turns that can follow without anything happening outside. -/
def bound (s : InMemory) : Nat :=
  8 * (s.client.tasks.length + s.client.links.length + s.turns.length + 1)

/-- Take turns until nobody is in line. -/
def settle (s : InMemory) : InMemory :=
  (List.range s.bound).foldl (fun s _ => if s.turns.isEmpty then s else s.turn) s

/-- A further task, which is put in line. -/
def spawn (s : InMemory) (job : Job) : InMemory :=
  let task := s.client.tasks.length
  { s with client := s.client.spawn job }.line [.task task]

/-- One millisecond passes, and the alarms for it wake their tasks. -/
def tick (s : InMemory) : InMemory :=
  let now := s.now + 1
  let (rung, alarms) := s.alarms.partition (·.tick ≤ now)
  { s with now, alarms }.line (rung.map fun (a : Alarm) => Turn.task a.task)

/-- Time passes; whoever can go on does so before each millisecond. -/
def advance : Nat → InMemory → InMemory
  | 0, s => s
  | n + 1, s =>
    let s := s.settle
    if s.alarms.isEmpty then { s with now := s.now + (n + 1) } else advance n s.tick

end InMemory

end RpcLink.Bench
