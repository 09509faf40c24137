import RpcLink.Pipe.Client
import RpcLink.Proofs.Exchange.Registrations
import RpcLink.Proofs.Pipe.Watching

/-!
Runs of the client of servers that are started as programs: its tasks take steps and are dropped,
its servers write, are killed and end, and the settings change, in any order. Most of what a task
does asks nothing of any server, and what that leaves as it is is said here once, by `Silent`.
-/

namespace RpcLink.Pipe

/-- What happens to a client. -/
inductive Act where
  | spawn (job : Job)
  | step (task : Nat) (m : Moment)
  | cancel (task : Nat)
  /-- Something happens to the server of a channel. -/
  | server (x : Nat) (e : Event)
  /-- A server writes to its log. -/
  | logged (x : Nat) (bytes : List UInt8)
  | logEnded (x : Nat)
  | configure (settings : Settings)

/-- Whether a task in this phase starts or stops a server. -/
def Phase.holdsLock : Phase → Bool
  | .writing purpose .. => purpose != .call
  | .greeting .. | .discarding .. | .stopping .. | .reaping _ => true
  | .fresh | .queued | .awaiting .. | .done _ | .cancelled => false

/-- Whether a task in this phase neither writes a request nor waits for the answer to a greeting. -/
def Phase.asksNothing : Phase → Bool
  | .writing .. | .greeting .. => false
  | _ => true

namespace Client

/-- A client to which nothing has happened. -/
def fresh (config : Config) (settings : Settings) : Client := { config, settings }

def happen (c : Client) : Act → Client
  | .spawn job => c.spawn job
  | .step task m => c.step task m
  | .cancel task => c.cancel task
  | .server x e => c.onChannel x e
  | .logged x bytes =>
    match c.channels[x]? with
    | some ch => c.setChannel x (ch.logged c.board bytes)
    | none => c
  | .logEnded x =>
    match c.channels[x]? with
    | some ch => c.setChannel x (ch.logEnded c.board)
    | none => c
  | .configure settings => { c with settings }

def run (c : Client) (acts : List Act) : Client := acts.foldl happen c

theorem run_append (c : Client) (acts more : List Act) :
    c.run (acts ++ more) = (c.run acts).run more := List.foldl_append

/-- The phase of a task. -/
def phase? (c : Client) (task : Nat) : Option Phase := c.tasks[task]?.map Task.phase

/-- The requests that were written to a channel. -/
def writtenTo (c : Client) (x : Nat) : List Request :=
  (c.channels[x]?.map Channel.written).getD []

theorem phase?_of_found {c : Client} {task : Nat} {t : Task} (found : c.tasks[task]? = some t) :
    c.phase? task = some t.phase := by
  simp [phase?, found]

theorem phase?_of_tasks_eq {c c' : Client} (same : c'.tasks = c.tasks) (task : Nat) :
    c'.phase? task = c.phase? task := by
  rw [phase?, phase?, same]

theorem live?_eq_some_iff {c : Client} {x : Nat} :
    c.live? = some x ↔ c.current = some x ∧ (c.board.exchange x).closed = none := by
  unfold live? Exchange.isOpen
  rw [Option.filter_eq_some_iff, Option.isNone_iff_eq_none]

section SetPhase

variable (c : Client) (task t : Nat) (phase : Phase)

theorem setPhase_getElem? :
    (c.setPhase task phase).tasks[t]? =
      c.tasks[t]?.map fun k => if t = task then { k with phase } else k := by
  unfold setPhase
  rw [List.getElem?_modify]
  by_cases same : task = t
  · subst same
    cases c.tasks[task]? <;> simp
  · simp [same, Ne.symm same]

theorem setPhase_phase? :
    (c.setPhase task phase).phase? t =
      if t = task then (c.phase? t).map fun _ => phase else c.phase? t := by
  unfold phase?
  rw [setPhase_getElem?]
  split
  · cases c.tasks[t]? <;> rfl
  · cases c.tasks[t]? <;> rfl

@[simp] theorem setPhase_jobs :
    (c.setPhase task phase).tasks.map Task.job = c.tasks.map Task.job := by
  apply List.ext_getElem?
  intro i
  rw [List.getElem?_map, List.getElem?_map, setPhase_getElem?, Option.map_map]
  apply congrFun (congrArg Option.map (funext fun k => ?_))
  by_cases same : i = task <;> simp [same]

end SetPhase

/-- A further task has not begun. -/
theorem spawn_phase? {c : Client} {job : Job} {t : Nat} {p : Phase}
    (found : (c.spawn job).phase? t = some p) : p = .fresh ∨ c.phase? t = some p := by
  unfold phase? spawn at found
  rw [List.getElem?_append] at found
  split at found
  · exact .inr found
  · obtain ⟨k, new, rfl⟩ := Option.map_eq_some_iff.mp found
    rw [List.mem_singleton.mp (List.mem_of_getElem? new)]
    exact .inl rfl

end Client

/-! ### What asks nothing of any server -/

/-- No channel was opened, no call registered and no request written. At most there are further
tasks, and the channel that calls use is given up. -/
structure Silent (c c' : Client) : Prop where
  config : c'.config = c.config
  jobs : ∀ job ∈ c.tasks.map Task.job, job ∈ c'.tasks.map Task.job
  written : c'.channels.map Channel.written = c.channels.map Channel.written
  board : Switchboard.Keeps c.board c'.board
  current : c'.current = c.current ∨ c'.current = none

namespace Silent

variable {c c' c'' : Client}

theorem refl (c : Client) : Silent c c := ⟨rfl, fun _ given => given, rfl, .refl _, .inl rfl⟩

theorem trans (first : Silent c c') (second : Silent c' c'') : Silent c c'' where
  config := second.config.trans first.config
  jobs job given := second.jobs job (first.jobs job given)
  written := second.written.trans first.written
  board := first.board.trans second.board
  current := by
    rcases second.current with same | none
    · rw [same]
      exact first.current
    · exact .inr none

theorem channels_length (silent : Silent c c') : c'.channels.length = c.channels.length := by
  simpa using congrArg List.length silent.written

theorem writtenTo_eq (silent : Silent c c') (x : Nat) : c'.writtenTo x = c.writtenTo x := by
  have same := congrArg (fun l => l[x]?) silent.written
  simp only [List.getElem?_map] at same
  rw [Client.writtenTo, Client.writtenTo, same]

end Silent

theorem Turn.keeps {ch : Channel} {x : Nat} {b : Switchboard} {s : Channel × Switchboard}
    (turn : Turn ch x b s) : Switchboard.Keeps b s.2 := by
  cases turn with
  | quiet steady => exact .refl b
  | hands steady frames => exact b.keeps_dispatchAll x frames
  | closes steady reason => exact b.keeps_abort x reason

namespace Channel

/-- What is noted of a log leaves the calls alone. -/
theorem keeps_log (b : Switchboard) (lines : List String) :
    Switchboard.Keeps b (lines.foldl (fun b line => b.observe (.logged line)) b) := by
  induction lines generalizing b with
  | nil => exact .refl b
  | cons line lines ih => exact (b.keeps_observe _).trans (ih _)

end Channel

namespace Client

section

variable (c : Client) (task x : Nat)

theorem silent_setPhase (phase : Phase) : Silent c (c.setPhase task phase) :=
  ⟨rfl, fun _ given => c.setPhase_jobs task phase ▸ given, rfl, .refl _, .inl rfl⟩

theorem silent_spawn (job : Job) : Silent c (c.spawn job) where
  config := rfl
  jobs _ given := by
    rw [spawn, List.map_append]
    exact List.mem_append_left _ given
  written := rfl
  board := .refl _
  current := .inl rfl

theorem silent_setBoard {b : Switchboard} (keeps : Switchboard.Keeps c.board b) :
    Silent c { c with board := b } := ⟨rfl, fun _ given => given, rfl, keeps, .inl rfl⟩

theorem silent_setLock (lock : FairLock) : Silent c { c with lock } :=
  ⟨rfl, fun _ given => given, rfl, .refl _, .inl rfl⟩

theorem silent_setChannel {ch : Channel} (found : c.channels[x]? = some ch)
    {now : Channel × Switchboard} (written : now.1.written = ch.written)
    (keeps : Switchboard.Keeps c.board now.2) : Silent c (c.setChannel x now) where
  config := rfl
  jobs _ given := given
  written := by
    apply List.ext_getElem?
    intro i
    show ((c.channels.set x now.1).map Channel.written)[i]? = _
    rw [List.getElem?_map, List.getElem?_map, List.getElem?_set]
    by_cases same : x = i
    · subst same
      obtain ⟨inside, here⟩ := List.getElem?_eq_some_iff.mp found
      simp [inside, here, written]
    · simp [same]
  board := keeps
  current := .inl rfl

theorem silent_onChannel (e : Event) : Silent c (c.onChannel x e) := by
  unfold onChannel
  split
  · rename_i ch found
    have turn := ch.step_turn x c.board e
    exact c.silent_setChannel x found turn.steady.written turn.keeps
  · exact .refl c

@[simp] theorem onChannel_tasks (e : Event) : (c.onChannel x e).tasks = c.tasks := by
  unfold onChannel
  split <;> rfl

@[simp] theorem onChannel_lock (e : Event) : (c.onChannel x e).lock = c.lock := by
  unfold onChannel
  split <;> rfl

@[simp] theorem letGo_tasks : (c.letGo task).tasks = c.tasks := by
  unfold letGo
  split <;> rfl

theorem silent_letGo : Silent c (c.letGo task) := by
  have settled : ∀ call, Switchboard.Keeps c.board (c.board.settle call) := c.board.keeps_settle
  unfold letGo
  split
  all_goals first
    | exact ⟨rfl, fun _ given => given, rfl, settled _, .inl rfl⟩
    | exact ⟨rfl, fun _ given => given, rfl, .refl _, .inl rfl⟩

/-- The channel that calls use is taken, to be stopped. -/
theorem silent_stopping : Silent c { c with
    current := none
    channels := c.channels.modify x fun ch => { ch with stopping := true } } where
  config := rfl
  jobs _ given := given
  written := by
    apply List.ext_getElem?
    intro i
    rw [List.getElem?_map, List.getElem?_map, List.getElem?_modify]
    cases c.channels[i]? with
    | none => rfl
    | some ch => by_cases here : x = i <;> simp [here]
  board := .refl _
  current := .inr rfl

/-- Letting go of channels kills their servers and does nothing else. -/
theorem sweep_keeps {P : Client → Prop} (h : P c) (kill : ∀ a y, P a → P (a.onChannel y .kill)) :
    P c.sweep := by
  unfold sweep
  generalize List.range c.channels.length = xs
  induction xs generalizing c with
  | nil => exact h
  | cons y ys ih =>
      rw [List.foldl_cons]
      refine ih _ ?_
      split
      · exact h
      · exact kill c y h

theorem silent_sweep : Silent c c.sweep :=
  c.sweep_keeps (P := Silent c) (.refl c) fun a y before =>
    before.trans (a.silent_onChannel y .kill)

@[simp] theorem sweep_tasks : c.sweep.tasks = c.tasks :=
  c.sweep_keeps (P := fun a => a.tasks = c.tasks) rfl fun a y same =>
    (a.onChannel_tasks y .kill).trans same

@[simp] theorem sweep_lock : c.sweep.lock = c.lock :=
  c.sweep_keeps (P := fun a => a.lock = c.lock) rfl fun a y same =>
    (a.onChannel_lock y .kill).trans same

end

/-- What is no step of a task asks nothing of any server. -/
theorem happen_silent (c : Client) {act : Act} (noStep : ∀ task m, act ≠ .step task m) :
    Silent c (c.happen act) := by
  cases act with
  | spawn job => exact c.silent_spawn job
  | step task m => exact absurd rfl (noStep task m)
  | cancel task =>
      show Silent c (c.cancel task)
      unfold cancel
      split
      · exact .refl c
      · exact ((c.silent_letGo task).trans (silent_setPhase ..)).trans (silent_sweep _)
  | server x e => exact c.silent_onChannel x e
  | logged x bytes =>
      rw [happen]
      split
      · rename_i ch found
        exact c.silent_setChannel x found rfl (Channel.keeps_log ..)
      · exact .refl c
  | logEnded x =>
      rw [happen]
      split
      · rename_i ch found
        exact c.silent_setChannel x found rfl (Channel.keeps_log ..)
      · exact .refl c
  | configure settings => exact ⟨rfl, fun _ given => given, rfl, .refl _, .inl rfl⟩

/-! ### Steps -/

section

variable {c : Client} {task : Nat} {job : Job} {m : Moment}

theorem askLock_of_free (free : c.lock.holder = none) :
    c.askLock task job m =
      ({ c with lock := { c.lock with holder := some task } }).withLock task job m := by
  simp only [askLock, FairLock.acquire, free]

theorem askLock_of_held {other : Nat} (held : c.lock.holder = some other) :
    c.askLock task job m =
      ({ c with lock := { c.lock with queue := c.lock.queue ++ [task] } }).setPhase task
        .queued := by
  simp only [askLock, FairLock.acquire, held]

/-- A task goes on as far as it can, unless its time is up then, and channels are let go of. -/
theorem step_cases {t : Task} (found : c.tasks[task]? = some t) :
    c.step task m = (c.proceed task t m).sweep ∨
      ∃ e, c.step task m = (((c.proceed task t m).letGo task).setPhase task
        (.done (.response (.error e)))).sweep := by
  unfold step
  rw [found]
  dsimp only
  split
  · split
    · exact .inr ⟨_, rfl⟩
    · exact .inl rfl
  · exact .inl rfl

end

end Client

end RpcLink.Pipe
