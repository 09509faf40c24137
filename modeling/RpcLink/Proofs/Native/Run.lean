import RpcLink.Native.Client

/-!
Runs of the client of native hosts: its tasks take steps and are dropped, the host's sides of its
ports act, their events are taken and the settings change, in any order.
-/

namespace RpcLink.Native

/-- What the host's side of a port does. -/
inductive PeerAct where
  | send (message : Json)
  | disconnect (reason : String)
  /-- It takes some of the messages that were posted. -/
  | take (count : Nat)
  /-- It takes no more messages. -/
  | close
  /-- It drops the messages that were posted, and takes no more. -/
  | discard
  | drop

def PeerAct.apply (p : Port) : PeerAct → Port
  | .send message => (p.notify (.message message)).2
  | .disconnect reason => (p.notify (.disconnected reason)).2
  | .take count => { p with outgoing := { p.outgoing with items := p.outgoing.items.drop count } }
  | .close => { p with outgoing := p.outgoing.close }
  | .discard => { p with outgoing := { p.outgoing.close with items := [] } }
  | .drop => p.dropPeer

/-- What happens to a client. -/
inductive Event where
  | spawn (job : Job)
  | step (task : Nat) (dial : Dial) (timeUp : Bool)
  | cancel (task : Nat)
  | attend (link : Nat) (most : Option Nat)
  | peer (link : Nat) (act : PeerAct)
  | configure (settings : Settings)

namespace Client

/-- A client to which nothing has happened. -/
def fresh (config : Config) (settings : Settings) : Client := { config, settings }

def happen (c : Client) : Event → Client
  | .spawn job => c.spawn job
  | .step task dial timeUp => c.step task dial timeUp
  | .cancel task => c.cancel task
  | .attend link most => c.attend link most
  | .peer link act => (c.onPort link (fun p => ((), act.apply p)) ()).2
  | .configure settings => { c with settings }

def run (c : Client) (es : List Event) : Client := es.foldl happen c

/-! ### Parts of a client -/

/-- The phase of a task. -/
def phase? (c : Client) (task : Nat) : Option Phase := c.tasks[task]?.map Task.phase

theorem phase?_of_found {c : Client} {task : Nat} {t : Task} (found : c.tasks[task]? = some t) :
    c.phase? task = some t.phase := by
  simp [phase?, found]

/-- The port of a connection. -/
def port (c : Client) (link : Nat) : Port := (c.links[link]?.map Link.port).getD {}

section SetPhase

variable (c : Client) (task t : Nat) (phase : Phase)

@[simp] theorem setPhase_board : (c.setPhase task phase).board = c.board := rfl

@[simp] theorem setPhase_current : (c.setPhase task phase).current = c.current := rfl

@[simp] theorem setPhase_links : (c.setPhase task phase).links = c.links := rfl

theorem setPhase_getElem? :
    (c.setPhase task phase).tasks[t]? =
      c.tasks[t]?.map fun k => if t = task then { k with phase } else k := by
  unfold setPhase
  rw [List.getElem?_modify]
  by_cases same : task = t
  · subst same
    cases c.tasks[task]? <;> simp
  · simp [same, Ne.symm same]

theorem setPhase_phase? :
    (c.setPhase task phase).phase? t =
      if t = task then (c.phase? t).map fun _ => phase else c.phase? t := by
  unfold phase?
  rw [setPhase_getElem?]
  split
  · cases c.tasks[t]? <;> rfl
  · cases c.tasks[t]? <;> rfl

@[simp] theorem setPhase_jobs :
    (c.setPhase task phase).tasks.map Task.job = c.tasks.map Task.job := by
  apply List.ext_getElem?
  intro i
  rw [List.getElem?_map, List.getElem?_map, setPhase_getElem?, Option.map_map]
  apply congrFun (congrArg Option.map (funext fun k => ?_))
  by_cases same : i = task <;> simp [same]

end SetPhase

@[simp] theorem letGo_tasks (c : Client) (task : Nat) : (c.letGo task).tasks = c.tasks := by
  unfold letGo
  split <;> rfl

/-- Who lets go awaits its call no longer, if it has one. -/
theorem letGo_board (c : Client) (task : Nat) :
    (c.letGo task).board = c.board ∨ ∃ call, (c.letGo task).board = c.board.settle call := by
  unfold letGo
  split
  · exact .inl rfl
  · exact .inl rfl
  · exact .inr ⟨_, rfl⟩
  · exact .inl rfl

theorem live?_eq_some_iff {c : Client} {link : Nat} :
    c.live? = some link ↔ c.current = some link ∧ (c.board.exchange link).closed = none := by
  unfold live? Exchange.isOpen
  rw [Option.filter_eq_some_iff, Option.isNone_iff_eq_none]

/-- The port of a connection is changed. -/
theorem modify_port {links : List Link} {link i : Nat} {p : Port} (inside : link < links.length) :
    (((links.modify link fun l => { l with port := p })[i]?.map Link.port).getD {}) =
      if i = link then p else (links[i]?.map Link.port).getD {} := by
  rw [List.getElem?_modify]
  by_cases same : link = i
  · subst same
    simp [inside]
  · simp [same, Ne.symm same]

end Client

end RpcLink.Native
