import RpcLink.Proofs.Pipe.Greeting
import RpcLink.Proofs.Wire.Welcome

/-!
How far a task is on its way to a channel. As long as it has none it registers no call of its own,
and a step of it ends in one of few ways: it waits, it has got a channel, or its attempt to open one
failed, which tells that no server could be reached.
-/

namespace RpcLink

/-- A failure that tells that no server could be reached. -/
inductive Failure.Unreached : Failure → Prop where
  | notFound (searched : String) : Unreached (.programNotFound searched)
  | notStarted (e : SystemError) : Unreached (.spawn e)
  | ungreeted (message : String) : Unreached (.handshake message)

namespace Failure

variable {e : Failure}

theorem Unreached.flags (unreached : e.Unreached) :
    e.isTransportUnavailable = true ∧ e.isRetryable = false ∧ e.isChannelClosed = false := by
  cases unreached <;> exact ⟨rfl, rfl, rfl⟩

theorem unreached_ofStart (program : String) (e : SystemError) :
    Unreached (.ofStart program e) := by
  unfold ofStart
  split
  · exact .notFound program
  · exact .notStarted e

/-- Whatever fails during the greeting counts as a failure of the greeting. -/
theorem unreached_greetingFailure (e : Failure) : Unreached (Pipe.greetingFailure e) := by
  unfold Pipe.greetingFailure
  split
  · exact .ungreeted _
  · exact .ungreeted _

theorem unreached_of_greeted {result : Except Failure Response}
    (unread : (result.mapError Pipe.greetingFailure).bind ServerInfo.ofResponse = .error e) :
    Unreached e := by
  cases result with
  | error found =>
      cases unread
      exact unreached_greetingFailure found
  | ok r =>
      obtain ⟨m, rfl⟩ := ServerInfo.handshake_of_ofResponse unread
      exact .ungreeted m

end Failure

namespace Pipe

/-- Whether a task with this job needs a channel. -/
def Job.NeedsChannel (job : Job) : Prop := job = .start ∨ job.ask?.isSome

theorem Job.not_needsChannel_stop : ¬ Job.NeedsChannel .stop := by
  simp [Job.NeedsChannel, Job.ask?]

theorem Job.needsChannel_cases (job : Job) :
    job = .stop ∨ (∃ message e, job = .relay message ∧ Relay.Ask.decode message = .error e) ∨
      job.NeedsChannel := by
  cases job with
  | start => exact .inr (.inr (.inl rfl))
  | call => exact .inr (.inr (.inr rfl))
  | stop => exact .inl rfl
  | relay message =>
      cases read : Relay.Ask.decode message with
      | error e => exact .inr (.inl ⟨message, e, rfl, read⟩)
      | ok ask => exact .inr (.inr (.inr (by simp [Job.ask?, read, Except.toOption])))

/-- What a task in some phase is about. -/
inductive Stage where
  /-- It has no channel yet, or has not begun to stop a server. -/
  | opening
  /-- It makes its call on a channel. -/
  | calling
  /-- It stops a server. -/
  | stopping
  | over
deriving DecidableEq

namespace Phase

def stage : Phase → Stage
  | .fresh | .queued | .writing .greeting .. | .greeting .. | .discarding .. => .opening
  | .writing .call .. | .awaiting .. => .calling
  | .writing .shutdown .. | .stopping .. | .reaping _ => .stopping
  | .done _ | .cancelled => .over

/-- Whether a task in this phase is about a server that it started. -/
def greets : Phase → Bool
  | .writing .greeting .. | .greeting .. | .discarding .. => true
  | _ => false

/-- A task with this job can be in this phase: it waits for the lock to get a channel or to stop a
server, makes a call only if it has one to make, stops a server only if it is to, and gives up a
server that was not reached. -/
def Suits (job : Job) : Phase → Prop
  | .queued => job = .stop ∨ job.NeedsChannel
  | .writing .call .. | .awaiting .. => job.ask?.isSome
  | .writing .shutdown .. | .stopping .. | .reaping _ => job = .stop
  | .discarding _ e => e.Unreached
  | _ => True

theorem holdsLock_of_greets {p : Phase} (greets : p.greets = true) : p.holdsLock = true := by
  cases p with
  | writing purpose => cases purpose <;> first | rfl | cases greets
  | greeting => rfl
  | discarding => rfl
  | _ => cases greets

end Phase

namespace Client

/-- What of a client does not belong to its tasks or channels. -/
def standing (c : Client) : Option Nat × Bool × Bool := (c.current, c.connecting, c.opened)

/-- A step put a task into a phase, and left the other tasks as they were. -/
def Puts (task : Nat) (p : Phase) (c c' : Client) : Prop := c'.tasks = (c.setPhase task p).tasks

/-- A task has a channel for its call or gets one in its next step: it finds one open when it begins
or is given the lock, or the server that it greeted says what it is. -/
inductive Connected (c : Client) (task : Nat) : Prop where
  | calls {p : Phase} (phase : c.phase? task = some p) (calling : p.stage = .calling)
  | finds {x : Nat} (turn : c.phase? task = some .fresh ∨
      c.phase? task = some .queued ∧ c.lock.holder = some task) (live : c.live? = some x)
  | welcomed {x call : Nat} {r : Response} {info : ServerInfo}
      (greets : c.phase? task = some (.greeting x call))
      (answered : (c.board.poll call).1 = .done (.ok r))
      (accepted : ServerInfo.ofResponse r = .ok info)

/-- It is a task's turn to start a server: it needs a channel, there is none, and the lock is free
or was given to it. -/
structure Starts (c : Client) (task : Nat) (t : Task) : Prop where
  needs : t.job.NeedsChannel
  turn : t.phase = .fresh ∧ c.lock.holder = none ∨ t.phase = .queued ∧ c.lock.holder = some task
  dead : c.live? = none

/-- No call was registered but, at most, the first one on the channel of a server that was started,
which is its greeting. -/
def OnlyGreets (c c' : Client) : Prop :=
  c'.board.routes = c.board.routes ∨
    c.channels.length < c'.channels.length ∧
      ∃ id, c'.board.routes = c.board.routes ++ [(c.channels.length, id)]

/-- What comes of an attempt to open a channel: it goes on, or it failed and nothing is left of
it. -/
inductive Attempt (task : Nat) (job : Job) (c c' : Client) : Prop where
  | goesOn {p : Phase} (puts : Puts task p c c') (opening : p.stage = .opening)
      (suits : p.Suits job)
  | fails {e : Failure} (unreached : e.Unreached)
      (puts : Puts task (.done (job.conclude (.error e))) c c')
      (standing : c'.standing = (none, false, true))

/-- A task is past the opening of a channel. -/
def Passes (task : Nat) (job : Job) (c c' : Client) : Prop :=
  ∃ p, Puts task p c c' ∧ p.Suits job ∧ p.stage ≠ .opening

/-- No task went on, and no call was registered. -/
structure Rests (c c' : Client) : Prop where
  tasks : c'.tasks = c.tasks
  routes : c'.board.routes = c.board.routes
  length : c'.channels.length = c.channels.length
  standing : c'.standing = c.standing

/-- How a task goes on. -/
inductive Goes (c : Client) (task : Nat) (t : Task) (c' : Client) : Prop where
  /-- It waits for what it waited for. -/
  | stays (rests : Rests c c')
  /-- It waits for the lock now. -/
  | queues (fresh : t.phase = .fresh) (wants : t.job = .stop ∨ t.job.NeedsChannel)
      (puts : Puts task .queued c c') (routes : c'.board.routes = c.board.routes)
      (standing : c'.standing = c.standing)
  /-- It starts a server, or is about one that it started. -/
  | tries (may : c.Starts task t ∨ t.phase.greets = true) (attempt : Attempt task t.job c c')
      (greets : c.OnlyGreets c')
  /-- It gets a channel. -/
  | connects (connected : c.Connected task) (before : t.phase.stage = .opening)
      (passes : Passes task t.job c c')
      (start : t.job = .start → Puts task (.done (.started (.ok ()))) c c')
  /-- It had a channel, or needs none. -/
  | leaves (before : t.phase.stage ≠ .opening ∨ ¬ t.job.NeedsChannel)
      (passes : Passes task t.job c c') (standing : c.current = none → c'.standing = c.standing)

section

variable {c a c' : Client} {task k x call : Nat} {t : Task} {job : Job} {p q : Phase} {m : Moment}
  {e : Failure} {purpose : Purpose} {r : Request} {writing : Option (Except SystemError Unit)}

namespace Puts

theorem own (puts : Puts task p c c') (found : c.tasks[task]? = some t) :
    c'.tasks[task]? = some { t with phase := p } := by
  rw [puts, setPhase_getElem?, found]
  simp

theorem other (puts : Puts task p c c') (other : k ≠ task) : c'.tasks[k]? = c.tasks[k]? := by
  rw [puts, setPhase_getElem?]
  simp [other]

theorem of_tasks_eq (same : a.tasks = c.tasks) (puts : Puts task p a c') : Puts task p c c' := by
  rw [Puts, puts, setPhase, setPhase, same]

theorem rests (puts : Puts task p c a) (rests : Rests a c') : Puts task p c c' :=
  rests.tasks.trans puts

/-- A task that stays where it is. -/
theorem same (found : c.tasks[task]? = some t) (same : c'.tasks = c.tasks) :
    Puts task t.phase c c' := by
  refine same.trans (List.ext_getElem? fun i => ?_)
  rw [setPhase_getElem?]
  by_cases here : i = task
  · subst here
    simp [found]
  · simp [here]

/-- Only where a task is put last counts. -/
theorem again (first : Puts task p c a) (second : Puts task q a c') : Puts task q c c' := by
  refine second.trans (List.ext_getElem? fun i => ?_)
  rw [setPhase_getElem?, setPhase_getElem?, first, setPhase_getElem?]
  by_cases here : i = task
  · simp [here, Function.comp_def]
  · simp [here]

end Puts

/-! ### Parts of an attempt -/

theorem Attempt.of_tasks_eq (same : a.tasks = c.tasks) (attempt : Attempt task job a c') :
    Attempt task job c c' := by
  cases attempt with
  | goesOn puts opening suits => exact .goesOn (puts.of_tasks_eq same) opening suits
  | fails unreached puts standing => exact .fails unreached (puts.of_tasks_eq same) standing

theorem fail_attempt (unreached : e.Unreached) : Attempt task job c (c.fail task job e) :=
  .fails unreached rfl rfl

theorem awaitDiscarded_attempt (unreached : e.Unreached) (x : Nat) :
    Attempt task job c (c.awaitDiscarded task job x e) := by
  unfold awaitDiscarded
  split
  · exact fail_attempt unreached
  · exact .goesOn rfl rfl unreached

theorem discard_attempt (unreached : e.Unreached) (x : Nat) :
    Attempt task job c (c.discard task job x e) := by
  unfold discard
  refine .of_tasks_eq ?_ (awaitDiscarded_attempt unreached x)
  rw [onChannel_tasks]

theorem write_greeting_attempt (x : Nat) (r : Request) (call : Nat)
    (writing : Option (Except SystemError Unit)) :
    Attempt task job c (c.write task job .greeting x r call writing) := by
  cases writing with
  | none => exact .goesOn (p := .writing .greeting x r call) rfl rfl trivial
  | some result =>
      cases result with
      | ok _ => exact .goesOn (p := .greeting x call) rfl rfl trivial
      | error e =>
          rw [write, giveUp]
          refine .of_tasks_eq ?_ (discard_attempt (Failure.unreached_greetingFailure _) x)
          rfl

theorem launch_attempt : Attempt task job c (c.launch task job m) := by
  unfold launch
  dsimp only
  split
  · refine .of_tasks_eq ?_ (fail_attempt (Failure.unreached_ofStart ..))
    rfl
  · unfold send
    split
    · rw [giveUp]
      refine .of_tasks_eq ?_ (discard_attempt (Failure.unreached_greetingFailure _) _)
      rfl
    · refine .of_tasks_eq ?_ (write_greeting_attempt ..)
      rfl

/-! ### What an attempt registers -/

@[simp] theorem onChannel_routes (c : Client) (x : Nat) (e : Event) :
    (c.onChannel x e).board.routes = c.board.routes := (c.silent_onChannel x e).board.routes_eq

@[simp] theorem awaitDiscarded_routes (c : Client) (task : Nat) (job : Job) (x : Nat)
    (e : Failure) : (c.awaitDiscarded task job x e).board.routes = c.board.routes := by
  unfold awaitDiscarded
  split <;> rfl

@[simp] theorem discard_routes (c : Client) (task : Nat) (job : Job) (x : Nat) (e : Failure) :
    (c.discard task job x e).board.routes = c.board.routes := by
  rw [discard, awaitDiscarded_routes, onChannel_routes]
  exact (c.board.keeps_abort x e.message).routes_eq

theorem write_greeting_routes (c : Client) (task : Nat) (job : Job) (x : Nat) (r : Request)
    (call : Nat) (writing : Option (Except SystemError Unit)) :
    (c.write task job .greeting x r call writing).board.routes = c.board.routes := by
  cases writing with
  | none => rfl
  | some result =>
      cases result with
      | ok _ => rfl
      | error e =>
          rw [write, giveUp, discard_routes]
          exact (c.board.keeps_forget x r.id).routes_eq

/-- Starting a server registers its greeting, if it starts. -/
theorem launch_onlyGreets : c.OnlyGreets (c.launch task job m) := by
  unfold launch
  dsimp only
  split
  · exact .inl rfl
  · unfold send
    dsimp only
    rcases c.board.openExchange.register_cases c.channels.length helloMethod
      c.config.client.hello with ⟨reason, -, refused⟩ | ⟨id, call, board, made, registers⟩
    · rw [refused]
      exact .inl (discard_routes ..)
    · rw [made]
      refine .inr ⟨by simp, id, ?_⟩
      rw [write_greeting_routes]
      exact registers.routes_eq

/-! ### What lies past the opening of a channel -/

namespace Passes

theorem of_tasks_eq (same : a.tasks = c.tasks) (passes : Passes task job a c') :
    Passes task job c c' := by
  obtain ⟨p, puts, suits, past⟩ := passes
  exact ⟨p, puts.of_tasks_eq same, suits, past⟩

theorem rests (passes : Passes task job c a) (rests : Rests a c') : Passes task job c c' := by
  obtain ⟨p, puts, suits, past⟩ := passes
  exact ⟨p, puts.rests rests, suits, past⟩

end Passes

theorem finish_passes (c : Client) (task : Nat) (job : Job) (result : Except Failure Response) :
    Passes task job c (c.finish task job result) := ⟨.done _, rfl, trivial, by rintro ⟨⟩⟩

theorem reap_passes (x : Nat) : Passes task .stop c (c.reap task x) := by
  unfold reap
  split
  · exact ⟨.done .stopped, rfl, trivial, by rintro ⟨⟩⟩
  · exact ⟨.reaping x, rfl, rfl, by rintro ⟨⟩⟩

theorem closeDown_passes (x : Nat) : Passes task .stop c (c.closeDown task x) := by
  unfold closeDown
  refine (reap_passes x).of_tasks_eq ?_
  rw [onChannel_tasks]

/-- Whoever writes a request that is no greeting is past the opening of a channel. -/
theorem write_passes (later : purpose ≠ .greeting) (suits : (purpose.phase x call).Suits job)
    (r : Request) (writing : Option (Except SystemError Unit)) :
    Passes task job c (c.write task job purpose x r call writing) := by
  cases purpose with
  | greeting => exact absurd rfl later
  | call =>
      rcases writing with _ | (e | _)
      · exact ⟨.writing .call x r call, rfl, suits, by rintro ⟨⟩⟩
      · exact (finish_passes _ task job _).of_tasks_eq rfl
      · exact ⟨.awaiting x call, rfl, suits, by rintro ⟨⟩⟩
  | shutdown =>
      obtain rfl : job = .stop := suits
      rcases writing with _ | (e | _)
      · exact ⟨.writing .shutdown x r call, rfl, rfl, by rintro ⟨⟩⟩
      · exact (closeDown_passes x).of_tasks_eq rfl
      · exact ⟨.stopping x call, rfl, rfl, by rintro ⟨⟩⟩

theorem send_passes (later : purpose ≠ .greeting)
    (suits : ∀ call, (purpose.phase x call).Suits job) (method : String) (params : Json)
    (writing : Option (Except SystemError Unit)) :
    Passes task job c (c.send task job purpose x method params writing) := by
  unfold send
  split
  · cases purpose with
    | greeting => exact absurd rfl later
    | call => exact finish_passes c task job _
    | shutdown =>
        obtain rfl : job = .stop := suits 0
        exact closeDown_passes x
  · exact (write_passes later (suits _) _ writing).of_tasks_eq rfl

theorem useChannel_passes (x : Nat) (writing : Option (Except SystemError Unit)) :
    Passes task job c (c.useChannel task job x writing) := by
  unfold useChannel
  split
  · exact ⟨.done _, rfl, trivial, by rintro ⟨⟩⟩
  · rename_i ask asks
    have later : Purpose.call ≠ .greeting := by decide
    exact send_passes later (fun _ => Option.isSome_of_eq_some asks) ..

/-- Whoever only wants a channel open has what it wants. -/
theorem useChannel_start (x : Nat) (writing : Option (Except SystemError Unit)) :
    Puts task (.done (.started (.ok ()))) c (c.useChannel task .start x writing) := rfl

theorem stop_passes (writing : Option (Except SystemError Unit)) :
    Passes task .stop c (c.stop task .stop writing) := by
  unfold stop
  split
  · exact ⟨.done .stopped, rfl, trivial, by rintro ⟨⟩⟩
  · dsimp only
    split
    · have later : Purpose.shutdown ≠ .greeting := by decide
      exact (send_passes later (fun _ => rfl) ..).of_tasks_eq rfl
    · exact (closeDown_passes _).of_tasks_eq rfl

/-! ### What does not open or give up the channel of calls -/

@[simp] theorem onChannel_standing (c : Client) (x : Nat) (e : Event) :
    (c.onChannel x e).standing = c.standing := by
  unfold onChannel
  split <;> rfl

theorem reap_standing (c : Client) (task x : Nat) : (c.reap task x).standing = c.standing := by
  unfold reap
  split <;> rfl

theorem closeDown_standing (c : Client) (task x : Nat) :
    (c.closeDown task x).standing = c.standing := by
  rw [closeDown, reap_standing, onChannel_standing]
  rfl

theorem write_standing (later : purpose ≠ .greeting) (c : Client) (task : Nat) (job : Job) (x : Nat)
    (r : Request) (call : Nat) (writing : Option (Except SystemError Unit)) :
    (c.write task job purpose x r call writing).standing = c.standing := by
  rcases writing with _ | (e | _)
  · rfl
  · cases purpose with
    | greeting => exact absurd rfl later
    | call => rfl
    | shutdown => exact closeDown_standing ..
  · rfl

theorem stop_standing (none : c.current = none) (writing : Option (Except SystemError Unit)) :
    (c.stop task job writing).standing = c.standing := by
  unfold stop
  rw [none]
  rfl

theorem rests_sweep (c : Client) : Rests c c.sweep where
  tasks := c.sweep_tasks
  routes := c.silent_sweep.board.routes_eq
  length := c.silent_sweep.channels_length
  standing := c.sweep_keeps (P := fun a => a.standing = c.standing) rfl fun a y same =>
    (a.onChannel_standing y .kill).trans same

/-! ### Steps -/

theorem OnlyGreets.rests (greets : c.OnlyGreets a) (rests : Rests a c') : c.OnlyGreets c' := by
  unfold OnlyGreets
  rw [rests.routes, rests.length]
  exact greets

theorem Attempt.rests (attempt : Attempt task job c a) (rests : Rests a c') :
    Attempt task job c c' := by
  cases attempt with
  | goesOn puts opening suits => exact .goesOn (puts.rests rests) opening suits
  | fails unreached puts standing =>
      exact .fails unreached (puts.rests rests) (rests.standing.trans standing)

theorem Goes.rests (goes : Goes c task t a) (rests : Rests a c') : Goes c task t c' := by
  cases goes with
  | stays before =>
      exact .stays ⟨rests.tasks.trans before.tasks, rests.routes.trans before.routes,
        rests.length.trans before.length, rests.standing.trans before.standing⟩
  | queues fresh wants puts routes standing =>
      exact .queues fresh wants (puts.rests rests) (rests.routes.trans routes)
        (rests.standing.trans standing)
  | tries may attempt greets => exact .tries may (attempt.rests rests) (greets.rests rests)
  | connects connected before passes start =>
      exact .connects connected before (passes.rests rests) fun same => (start same).rests rests
  | leaves before passes standing =>
      exact .leaves before (passes.rests rests) fun none => rests.standing.trans (standing none)

theorem stage_of_greets (greets : p.greets = true) : p.stage = .opening := by
  cases p with
  | writing purpose => cases purpose <;> first | rfl | cases greets
  | greeting => rfl
  | discarding => rfl
  | _ => cases greets

/-- Whose turn it is has no channel yet. -/
theorem stage_of_turn (turn : t.phase = .fresh ∧ c.lock.holder = none ∨
    t.phase = .queued ∧ c.lock.holder = some task) : t.phase.stage = .opening := by
  rcases turn with ⟨fresh, -⟩ | ⟨queued, -⟩
  · rw [fresh]
    rfl
  · rw [queued]
    rfl

theorem stage_of_may (may : c.Starts task t ∨ t.phase.greets = true) :
    t.phase.stage = .opening := may.elim (fun starts => stage_of_turn starts.turn) stage_of_greets

/-- A task that has the lock stops the server, or uses the channel that there is, or starts a
server. -/
theorem withLock_goes (found : c.tasks[task]? = some t) (l : FairLock)
    (wants : t.job = .stop ∨ t.job.NeedsChannel)
    (turn : t.phase = .fresh ∧ c.lock.holder = none ∨
      t.phase = .queued ∧ c.lock.holder = some task) :
    Goes c task t (({ c with lock := l }).withLock task t.job m) := by
  have known := phase?_of_found found
  have opening := stage_of_turn turn
  rcases wants with stops | needs
  · refine .leaves (.inr ?_) ?_ ?_
    · rw [stops]
      exact Job.not_needsChannel_stop
    · rw [stops]
      exact (stop_passes m.writing).of_tasks_eq rfl
    · rw [stops]
      exact fun none => stop_standing (c := { c with lock := l }) none m.writing
  · have started : t.job ≠ .stop := fun stops => Job.not_needsChannel_stop (stops ▸ needs)
    unfold withLock
    split
    · rename_i stops
      exact absurd stops started
    · split
      · rename_i x live
        refine .connects (.finds ?_ live) opening ?_ ?_
        · rw [known]
          exact turn.imp (fun fresh => congrArg some fresh.1)
            fun queued => ⟨congrArg some queued.1, queued.2⟩
        · exact (useChannel_passes x m.writing).of_tasks_eq rfl
        · intro start
          rw [start]
          exact (useChannel_start x m.writing).of_tasks_eq rfl
      · rename_i dead
        refine .tries (.inl ⟨needs, turn, dead⟩) ?_ launch_onlyGreets
        refine .of_tasks_eq ?_ launch_attempt
        rfl

theorem askLock_goes (found : c.tasks[task]? = some t) (fresh : t.phase = .fresh)
    (wants : t.job = .stop ∨ t.job.NeedsChannel) : Goes c task t (c.askLock task t.job m) := by
  cases holder : c.lock.holder with
  | none =>
      rw [askLock_of_free holder]
      exact withLock_goes found _ wants (.inl ⟨fresh, holder⟩)
  | some other =>
      rw [askLock_of_held holder]
      exact .queues fresh wants rfl rfl rfl

theorem begin_goes (found : c.tasks[task]? = some t) (fresh : t.phase = .fresh) :
    Goes c task t (c.begin task t.job m) := by
  have opening : t.phase.stage = .opening := by
    rw [fresh]
    rfl
  have known : c.phase? task = some .fresh := fresh ▸ phase?_of_found found
  have starts : t.job.NeedsChannel → Goes c task t (c.startOnChannel task t.job m) := by
    intro needs
    unfold startOnChannel
    split
    · rename_i x live
      refine .connects (.finds (.inl known) live) opening (useChannel_passes x m.writing) ?_
      intro start
      rw [start]
      exact useChannel_start x m.writing
    · exact askLock_goes found fresh (.inr needs)
  rcases t.job.needsChannel_cases with stops | ⟨message, e, relays, unread⟩ | needs
  · have asked := askLock_goes (m := m) found fresh (.inl stops)
    rw [stops] at asked ⊢
    exact asked
  · have idle : ¬ t.job.NeedsChannel := by
      rw [relays]
      simp [Job.NeedsChannel, Job.ask?, unread, Except.toOption]
    rw [relays, begin, unread]
    refine .leaves (.inr idle) ?_ fun _ => rfl
    exact ⟨.done _, rfl, trivial, by rintro ⟨⟩⟩
  · unfold begin
    split
    · rename_i stops
      exact absurd (stops ▸ needs) Job.not_needsChannel_stop
    · rename_i message relays
      split
      · rename_i e unread
        rw [relays] at needs
        simp [Job.NeedsChannel, Job.ask?, unread, Except.toOption] at needs
      · exact starts needs
    · exact starts needs

/-- A task that waits for the answer to its greeting gets a channel, or its attempt fails. -/
theorem greeted_goes {result : Except Failure Response} (board : Switchboard)
    (same : board.routes = c.board.routes) (greets : t.phase = .greeting x call)
    (connected : ∀ r info, result = .ok r → ServerInfo.ofResponse r = .ok info → c.Connected task)
    (writing : Option (Except SystemError Unit)) :
    Goes c task t (({ c with board }).greeted task t.job x result writing) := by
  have opening : t.phase.stage = .opening := by
    rw [greets]
    rfl
  unfold greeted
  split
  · rename_i e unread
    have unreached := Failure.unreached_of_greeted unread
    refine .tries (.inr (by rw [greets]; rfl)) ?_ (.inl ?_)
    · refine .of_tasks_eq ?_ (discard_attempt unreached x)
      rfl
    · rw [discard_routes]
      exact same
  · rename_i info accepted
    cases result with
    | error e => cases accepted
    | ok r =>
        refine .connects (connected r info rfl accepted) opening ?_ ?_
        · refine .of_tasks_eq ?_ (useChannel_passes x writing)
          rfl
        · intro start
          rw [start]
          exact .of_tasks_eq rfl (useChannel_start x writing)

/-- However a task goes on, it does so in one of these ways. -/
theorem proceed_goes (found : c.tasks[task]? = some t) (suits : t.phase.Suits t.job) (m : Moment) :
    Goes c task t (c.proceed task t m) := by
  have known := phase?_of_found found
  have rests : Goes c task t c := .stays ⟨rfl, rfl, rfl, rfl⟩
  unfold proceed
  split
  · rename_i fresh
    exact begin_goes found fresh
  · rename_i queued
    rw [queued] at suits
    split
    · rename_i held
      exact withLock_goes found c.lock suits (.inr ⟨queued, beq_iff_eq.mp held⟩)
    · exact rests
  · rename_i purpose x r call writes
    rw [writes] at suits
    cases purpose with
    | greeting =>
        refine .tries (.inr (by rw [writes]; rfl)) (write_greeting_attempt ..) (.inl ?_)
        exact write_greeting_routes ..
    | call =>
        have later : Purpose.call ≠ .greeting := by decide
        refine .leaves (.inl (by rw [writes]; rintro ⟨⟩)) (write_passes later suits r m.writing) ?_
        exact fun _ => write_standing later ..
    | shutdown =>
        have later : Purpose.shutdown ≠ .greeting := by decide
        refine .leaves (.inl (by rw [writes]; rintro ⟨⟩)) (write_passes later suits r m.writing) ?_
        exact fun _ => write_standing later ..
  · rename_i x call greets
    rw [greets] at known
    have kept := (c.board.keeps_poll call).routes_eq
    split
    · rename_i result board told
      rw [told] at kept
      refine greeted_goes board kept greets (fun r info same accepted => ?_) m.writing
      exact .welcomed known ((congrArg Prod.fst told).trans (same ▸ rfl)) accepted
    · rename_i standing board unanswered told
      rw [told] at kept
      split
      · refine greeted_goes _ ?_ greets (fun r info same => by cases same) m.writing
        exact (board.keeps_settle call).routes_eq.trans kept
      · exact rests
  · rename_i x e discards
    rw [discards] at suits
    refine .tries (.inr (by rw [discards]; rfl)) (awaitDiscarded_attempt suits x) (.inl ?_)
    exact awaitDiscarded_routes ..
  · rename_i x call awaits
    split
    · refine .leaves (.inl (by rw [awaits]; rintro ⟨⟩)) ?_ fun _ => rfl
      exact (finish_passes _ task t.job _).of_tasks_eq rfl
    · exact rests
  · rename_i x call stops
    rw [stops] at suits
    have isStop : t.job = .stop := suits
    have closes : ∀ board : Switchboard,
        Goes c task t (({ c with board }).closeDown task x) := by
      intro board
      refine .leaves (.inl (by rw [stops]; rintro ⟨⟩)) ?_ fun _ => closeDown_standing ..
      rw [isStop]
      exact (closeDown_passes x).of_tasks_eq rfl
    split
    · exact closes _
    · split
      · exact closes _
      · exact rests
  · rename_i x reaps
    rw [reaps] at suits
    have isStop : t.job = .stop := suits
    refine .leaves (.inl (by rw [reaps]; rintro ⟨⟩)) ?_ fun _ => reap_standing ..
    rw [isStop]
    exact reap_passes x
  · exact rests
  · exact rests

/-- A task goes on in one of these ways, or its own time is up. -/
theorem step_goes (found : c.tasks[task]? = some t) (suits : t.phase.Suits t.job) (m : Moment) :
    Goes c task t (c.step task m) ∨
      ∃ ns, (c.proceed task t m).config.timeout = some ns ∧ m.timeUp = true ∧
        t.job.isLimited = true ∧
        c.step task m = (((c.proceed task t m).letGo task).setPhase task
          (.done (.response (.error (.timeout ns))))).sweep := by
  have goes := proceed_goes found suits m
  unfold step
  rw [found]
  dsimp only
  split
  · rename_i ns limit
    split
    · rename_i expired
      simp only [Bool.and_eq_true] at expired
      exact .inr ⟨ns, limit, expired.1.1, expired.1.2, rfl⟩
    · exact .inl (goes.rests (rests_sweep _))
  · exact .inl (goes.rests (rests_sweep _))

/-! ### What is seen of a step -/

/-- However a task goes on, it comes to a phase that its job can be in, and the other tasks stay. -/
theorem Goes.puts (goes : Goes c task t c') (found : c.tasks[task]? = some t)
    (suits : t.phase.Suits t.job) : ∃ p, Puts task p c c' ∧ p.Suits t.job := by
  cases goes with
  | stays rests => exact ⟨_, .same found rests.tasks, suits⟩
  | queues _ wants puts _ _ => exact ⟨_, puts, wants⟩
  | tries _ attempt _ =>
      cases attempt with
      | goesOn puts _ suits => exact ⟨_, puts, suits⟩
      | fails _ puts _ => exact ⟨_, puts, trivial⟩
  | connects _ _ passes _ =>
      obtain ⟨p, puts, suits, -⟩ := passes
      exact ⟨p, puts, suits⟩
  | leaves _ passes _ =>
      obtain ⟨p, puts, suits, -⟩ := passes
      exact ⟨p, puts, suits⟩

/-- A task that has got no channel yet had none before, and registered no call but a greeting. -/
theorem Goes.opening (goes : Goes c task t c') (found : c.tasks[task]? = some t)
    (puts : Puts task p c c') (opening : p.stage = .opening) :
    t.phase.stage = .opening ∧ c.OnlyGreets c' := by
  have unpassed : ¬ Passes task t.job c c' := by
    rintro ⟨q, puts', -, past⟩
    have same := (puts.own found).symm.trans (puts'.own found)
    simp only [Option.some.injEq, Task.mk.injEq, true_and] at same
    exact past (same ▸ opening)
  cases goes with
  | stays rests =>
      have here := puts.own found
      rw [rests.tasks, found] at here
      refine ⟨?_, .inl rests.routes⟩
      rw [Option.some.inj here]
      exact opening
  | queues fresh _ _ routes _ => exact ⟨by rw [fresh]; rfl, .inl routes⟩
  | tries may _ greets => exact ⟨stage_of_may may, greets⟩
  | connects _ _ passes _ => exact absurd passes unpassed
  | leaves _ passes _ => exact absurd passes unpassed

/-- A task whose own time is up has ended, whatever it came to before. -/
theorem Puts.expires (puts : Puts task p c a) (outcome : Outcome) :
    Puts task (.done outcome) c ((a.letGo task).setPhase task (.done outcome)).sweep := by
  have let_ : Puts task (.done outcome) a ((a.letGo task).setPhase task (.done outcome)) :=
    .of_tasks_eq (a.letGo_tasks task) rfl
  exact (puts.again let_).rests (rests_sweep _)

end

end Client

end Pipe

end RpcLink
