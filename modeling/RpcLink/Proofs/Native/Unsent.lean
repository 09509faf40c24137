import RpcLink.Proofs.Exchange.Withdrawal
import RpcLink.Proofs.Native.Rejections

/-!
Calls that end before their request is posted: the connector has no port, the request is too long,
or the host's side takes none. Whatever else there was is then as it was before the call, and a
connection that there is stays the one that calls use.
-/

namespace RpcLink.Native

open Switchboard (Unmoved)

variable {c a a' c' : Client} {task link : Nat} {job : Job} {ask : Relay.Ask} {dial : Dial}

/-! ### What a call gets, and what is left as it was -/

namespace Client

/-- The request that a task makes next over a connection. -/
def request (c : Client) (link : Nat) (ask : Relay.Ask) : Request :=
  { id := c.board.nextOf link, method := ask.method, params := ask.params }

/-- A task has ended with a failure of its call. -/
def Fails (c : Client) (task : Nat) (job : Job) (e : Failure) : Prop :=
  c.phase? task = some (.done (job.conclude (.error e)))

/-- What the connector says of a host, with the place that a further connection has. -/
def answered (c : Client) (dial : Dial) (host : String) : Option (Except Failure Nat) :=
  (dial host).map fun answer => answer.map fun _ => c.links.length

/-- The connection that there is, or what comes of asking for one. -/
def connection (c : Client) (dial : Dial) : Option (Except Failure Nat) :=
  match c.live? with
  | some link => some (.ok link)
  | none => c.answered dial (c.config.hostName c.settings)

/-- What the call of a task gets in its next step: a connection, or why there is none, or nothing if
it has to wait for the lock or for the connector. -/
def offered (c : Client) (task : Nat) (dial : Dial) : Option (Except Failure Nat) :=
  match c.phase? task with
  | some .fresh =>
    if c.live?.isSome || c.lock.holder.isNone then c.connection dial else none
  | some .queued => if c.lock.isHeldBy task then c.connection dial else none
  | some (.opening host) => c.answered dial host
  | _ => none

end Client

/-- All but one task is as it was: those that wait, each for an earlier call, the outcomes of the
calls, the channels, the other tasks, and what was posted. -/
structure Untouched (task : Nat) (c c' : Client) : Prop where
  board : c.board.Unmoved c'.board
  older : ∀ {link id k}, (id, k) ∈ (c'.board.exchange link).waiting → k < c.board.calls.length
  tasks : ∀ t, t ≠ task → c'.tasks[t]? = c.tasks[t]?
  outbox : ∀ link, c'.outbox link = c.outbox link

namespace Untouched

/-- Whose turn it is is not looked at. -/
theorem of_lock (placed : c.board.Placed) (task : Nat) (lock : FairLock) :
    Untouched task c { c with lock } where
  board := .refl _
  older waits := (Unmoved.refl _).older placed waits
  tasks _ _ := rfl
  outbox _ := rfl

theorem refl (placed : c.board.Placed) (task : Nat) : Untouched task c c :=
  of_lock placed task c.lock

theorem trans (first : Untouched task c a) (second : Untouched task a c') :
    Untouched task c c' where
  board := first.board.trans second.board
  older waits := first.older (second.board.waiting _ ▸ waits)
  tasks t other := (second.tasks t other).trans (first.tasks t other)
  outbox link := (second.outbox link).trans (first.outbox link)

/-- The phase of the task itself is not looked at. -/
theorem setPhase (untouched : Untouched task c a) (phase : Phase) :
    Untouched task c (a.setPhase task phase) where
  board := untouched.board
  older := untouched.older
  tasks t other := by
    rw [Client.setPhase_getElem?, untouched.tasks t other]
    cases c.tasks[t]? <;> simp [other]
  outbox := untouched.outbox

end Untouched

/-- A connection is there for a task, and nothing else was done. -/
structure Ready (c : Client) (task link : Nat) (a : Client) : Prop where
  untouched : Untouched task c a
  linked : Connections a.board a.links.length a.current
  truthful : a.board.Truthful
  live : a.live? = some link
  number : a.board.nextOf link = c.board.nextOf link
  config : a.config = c.config
  there : task < a.tasks.length

/-- What comes of a call that gets a connection. -/
inductive Tried (c : Client) (task link : Nat) (job : Job) (ask : Relay.Ask) (c' : Client) :
    Prop where
  | tooLong (long : c.config.limit < (c.request link ask).toJson.byteLength)
      (fails : c'.Fails task job
        (.frameTooLarge (c.request link ask).toJson.byteLength c.config.limit))
      (untouched : Untouched task c c') (live : c'.live? = some link)
  | shut (fits : (c.request link ask).toJson.byteLength ≤ c.config.limit)
      (shut : (c'.port link).outgoing.shut = true)
      (fails : c'.Fails task job (.channelClosed "native port is disconnected"))
      (untouched : Untouched task c c') (live : c'.live? = some link)
  | posted (fits : (c.request link ask).toJson.byteLength ≤ c.config.limit)
      (taken : (c'.port link).outgoing.shut = false)
      (outbox : c'.outbox link = c.outbox link ++ [(c.request link ask).toJson.sorted])
      (goesOn : ∀ length limit, ¬ c'.Fails task job (.frameTooLarge length limit))

/-! ### Sending -/

namespace Client

variable {request : Request} {call : Nat} {board : Switchboard}

theorem setPhase_there {phase : Phase} (there : task < a.tasks.length) :
    (a.setPhase task phase).phase? task = some phase := by
  rw [setPhase_phase?, if_pos rfl, phase?, List.getElem?_eq_getElem there]
  rfl

/-- A request that is too long is taken back. -/
theorem send_long
    (registered : c.board.register link ask.method ask.params = (.ok (request, call), board))
    (long : c.config.limit < request.toJson.byteLength) :
    c.send task link job ask =
      { c with board := (board.forget link request.id).2 }.finish task job
        (.error (.frameTooLarge request.toJson.byteLength c.config.limit)) := by
  simp only [send, registered]
  rw [if_pos long]

/-- So is one that the host's side does not take. -/
theorem send_shut
    (registered : c.board.register link ask.method ask.params = (.ok (request, call), board))
    (fits : request.toJson.byteLength ≤ c.config.limit)
    (shut : (c.port link).outgoing.shut = true) :
    c.send task link job ask =
      { c with board := (board.forget link request.id).2 }.finish task job
        (.error (.channelClosed "native port is disconnected")) := by
  have shape : (c.links[link]?.map Link.port).getD {} = c.port link := rfl
  have refusal : (c.port link).post request.toJson.sorted =
      (.error (.channelClosed "native port is disconnected"), c.port link) := by
    simp [Port.post, Conduit.send, shut]
  simp only [send, registered]
  rw [if_neg (Nat.not_lt_of_le fits), shape, refusal]

theorem send_posted
    (registered : c.board.register link ask.method ask.params = (.ok (request, call), board))
    (fits : request.toJson.byteLength ≤ c.config.limit)
    (taken : (c.port link).outgoing.shut = false) :
    c.send task link job ask =
      { c with
        board
        links := c.links.modify link fun l =>
          { l with port := ((c.port link).post request.toJson.sorted).2 } }.setPhase task
        (.awaiting call) := by
  have shape : (c.links[link]?.map Link.port).getD {} = c.port link := rfl
  have success : (c.port link).post request.toJson.sorted =
      (.ok (), ((c.port link).post request.toJson.sorted).2) := by
    simp [Port.post, Conduit.send, taken]
  simp only [send, registered]
  rw [if_neg (Nat.not_lt_of_le fits), shape, success]

end Client

/-- A request is registered and taken back. -/
theorem Ready.withdraw {request : Request} {call : Nat} {board : Switchboard} {outcome : Outcome}
    (ready : Ready c task link a) (unused : ∀ k, (c.board.nextOf link, k) ∉
      (c.board.exchange link).waiting)
    (registered : a.board.register link ask.method ask.params = (.ok (request, call), board)) :
    Untouched task c
        ({ a with board := (board.forget link request.id).2 }.setPhase task (.done outcome)) ∧
      ({ a with board := (board.forget link request.id).2 }.setPhase task
        (.done outcome)).live? = some link := by
  obtain ⟨current, opened⟩ := Client.live?_eq_some_iff.mp ready.live
  have inside : link < a.board.exchanges.length :=
    ready.linked.aligned ▸ (ready.linked.current_open current).1
  have unmoved : a.board.Unmoved (board.forget link request.id).2 := by
    refine Unmoved.withdraw ready.truthful inside (fun k waits => ?_) registered
    rw [ready.untouched.board.waiting, ready.number] at waits
    exact unused k waits
  have withdrawn : Untouched task a { a with board := (board.forget link request.id).2 } :=
    ⟨unmoved, unmoved.older ready.truthful.placed, fun _ _ => rfl, fun _ => rfl⟩
  exact ⟨(ready.untouched.trans withdrawn).setPhase _,
    Client.live?_eq_some_iff.mpr ⟨current, (unmoved.closed link).trans opened⟩⟩

/-- A call that gets a connection is too long, or meets a host's side that takes none, or has its
request posted. -/
theorem Ready.send (ready : Ready c task link a) (unused : ∀ k, (c.board.nextOf link, k) ∉
      (c.board.exchange link).waiting) (job : Job) (ask : Relay.Ask) :
    Tried c task link job ask (a.send task link job ask) := by
  obtain ⟨current, opened⟩ := Client.live?_eq_some_iff.mp ready.live
  obtain ⟨inside, -⟩ := ready.linked.current_open current
  obtain ⟨id, registered, -⟩ := a.board.register_waiting ask.method ask.params opened
  obtain ⟨board, registered⟩ : ∃ board, a.board.register link ask.method ask.params =
      (.ok (c.request link ask, a.board.calls.length), board) := by
    refine ⟨_, Prod.ext ?_ rfl⟩
    have next := Switchboard.request_of_registered (Prod.ext registered rfl)
    rw [registered, next, ready.number]
    rfl
  have limit : a.config.limit = c.config.limit := by rw [ready.config]
  by_cases long : c.config.limit < (c.request link ask).toJson.byteLength
  · obtain ⟨untouched, live⟩ := ready.withdraw unused registered
    rw [Client.send_long registered (limit ▸ long), limit]
    exact .tooLong long (Client.setPhase_there ready.there) untouched live
  · have fits := Nat.le_of_not_lt long
    have fits' : (c.request link ask).toJson.byteLength ≤ a.config.limit := limit ▸ fits
    cases shut : (a.port link).outgoing.shut with
    | true =>
        obtain ⟨untouched, live⟩ := ready.withdraw unused registered
        rw [Client.send_shut registered fits' shut]
        exact .shut fits shut (Client.setPhase_there ready.there) untouched live
    | false =>
        rw [Client.send_posted registered fits' shut]
        have port : ∀ phase, (Client.setPhase { a with
            board
            links := a.links.modify link fun l =>
              { l with port := ((a.port link).post (c.request link ask).toJson.sorted).2 } }
              task phase).port link =
            ((a.port link).post (c.request link ask).toJson.sorted).2 := fun phase =>
          (Client.modify_port inside).trans (if_pos rfl)
        have sent : ((a.port link).post (c.request link ask).toJson.sorted).2.outgoing =
            { (a.port link).outgoing with
              items := (a.port link).outgoing.items ++ [(c.request link ask).toJson.sorted] } := by
          simp [Port.post, Conduit.send, shut]
        refine .posted fits ?_ ?_ fun length limit fails => ?_
        · rw [port, sent]
          exact shut
        · rw [Client.outbox, port, sent, ← ready.untouched.outbox link]
          rfl
        · cases (Client.setPhase_there ready.there).symm.trans fails

/-! ### Getting a connection -/

/-- A task is not done with connecting. -/
def Client.Early (c : Client) (task : Nat) : Prop :=
  ∃ phase, c.phase? task = some phase ∧ phase.rank < 3

namespace Client.Early

theorem there (early : c.Early task) : task < c.tasks.length := by
  obtain ⟨phase, found, -⟩ := early
  obtain ⟨t, found, -⟩ := Option.map_eq_some_iff.mp found
  exact (List.getElem?_eq_some_iff.mp found).1

theorem of_setPhase {phase : Phase} (there : task < a.tasks.length) (early : phase.rank < 3) :
    (a.setPhase task phase).Early task := ⟨phase, setPhase_there there, early⟩

theorem not_isOver (early : c.Early task) : c.isOver task = false := by
  obtain ⟨phase, was, early⟩ := early
  obtain ⟨t, found, rfl⟩ := Option.map_eq_some_iff.mp was
  unfold isOver Task.isOver
  rw [found]
  cases phase : t.phase <;> simp_all [Phase.rank]

/-- Who lets go before a request was posted lets go of no call. -/
theorem letGo_untouched (early : a.Early task) (untouched : Untouched task c a) (phase : Phase) :
    Untouched task c ((a.letGo task).setPhase task phase) := by
  refine Untouched.setPhase ?_ phase
  obtain ⟨was, found, early⟩ := early
  have found : a.tasks[task]?.map Task.phase = some was := found
  unfold letGo
  rw [found]
  cases was with
  | awaiting call => simp at early
  | _ => exact ⟨untouched.board, untouched.older, untouched.tasks, untouched.outbox⟩

end Client.Early

/-- What comes of a task that got nothing yet, no connection, or one. -/
inductive Gets (c : Client) (task : Nat) (job : Job) (ask : Relay.Ask) :
    Option (Except Failure Nat) → Client → Prop where
  | nothing {c' : Client} (untouched : Untouched task c c') (early : c'.Early task) :
      Gets c task job ask none c'
  | failure {a : Client} {e : Failure} (untouched : Untouched task c a)
      (there : task < a.tasks.length) :
      Gets c task job ask (some (.error e)) (a.finish task job (.error e))
  | connection {a : Client} {link : Nat} (ready : Ready c task link a) :
      Gets c task job ask (some (.ok link)) (a.send task link job ask)

section

variable {e : Failure}

theorem Gets.waits (gets : Gets c task job ask none c') :
    Untouched task c c' ∧ c'.Early task := by
  cases gets with
  | nothing untouched early => exact ⟨untouched, early⟩

theorem Gets.fails (gets : Gets c task job ask (some (.error e)) c') :
    c'.Fails task job e ∧ Untouched task c c' := by
  cases gets with
  | failure untouched there =>
      exact ⟨Client.setPhase_there there, untouched.setPhase _⟩

theorem Gets.tried (gets : Gets c task job ask (some (.ok link)) c')
    (unused : ∀ k, (c.board.nextOf link, k) ∉ (c.board.exchange link).waiting) :
    Tried c task link job ask c' := by
  cases gets with
  | connection ready => exact ready.send unused job ask

end

/-- The task asks the connector, and nothing else was done. -/
structure Asking (c : Client) (task : Nat) (a : Client) : Prop where
  untouched : Untouched task c a
  linked : Connections a.board a.links.length none
  truthful : a.board.Truthful
  board : a.board = c.board
  links : a.links = c.links
  config : a.config = c.config
  early : a.Early task

theorem Asking.gets (asking : Asking c task a) (job : Job) (ask : Relay.Ask) (dial : Dial)
    (host : String) :
    Gets c task job ask (c.answered dial host)
      (a.concludeAttempt task job ask host (dial host)) := by
  have there := asking.early.there
  unfold Client.answered
  rw [← asking.links]
  match dial host with
  | none => exact .nothing asking.untouched asking.early
  | some (.error e) =>
      have same : Untouched task c
          { a with
            connecting := false
            opened := true
            current := none
            lock := a.lock.release } :=
        ⟨asking.untouched.board, asking.untouched.older, asking.untouched.tasks,
          asking.untouched.outbox⟩
      exact .failure same there
  | some (.ok fresh) =>
      have further : Untouched task a
          { a with
            connecting := false
            opened := true
            links := a.links ++ [{ host, port := fresh.toPort }]
            board := a.board.openExchange
            current := some a.links.length
            lock := a.lock.release } :=
        ⟨.openExchange _, (Unmoved.openExchange _).older asking.truthful.placed, fun _ _ => rfl,
          Client.outbox_of_further fresh rfl⟩
      have linked : Connections a.board.openExchange
          (a.links ++ [{ host, port := fresh.toPort : Link }]).length (some a.links.length) := by
        simpa using asking.linked.openExchange
      have number : a.board.openExchange.nextOf a.links.length =
          c.board.nextOf a.links.length := by
        rw [← asking.board, ← asking.linked.aligned, Switchboard.nextOf_openExchange]
      exact .connection ⟨asking.untouched.trans further, linked,
        asking.truthful.openExchange.truthful,
        Client.live?_eq_some_iff.mpr ⟨rfl, (linked.current_open rfl).2⟩, number, asking.config,
        there⟩

/-- A task that has the lock uses the connection, or asks the connector. -/
theorem withLock_gets (h : Linked c) (truthful : c.board.Truthful) {t : Task}
    (found : c.tasks[task]? = some t) (asks : t.job.ask? = some ask) (lock : FairLock)
    (dial : Dial) :
    Gets c task t.job ask (c.connection dial) ({ c with lock }.withLock task t.job dial) := by
  obtain ⟨there, -⟩ := List.getElem?_eq_some_iff.mp found
  have live_eq : Client.live? { c with lock } = c.live? := rfl
  unfold Client.withLock Client.connect Client.connection
  simp only [asks, live_eq]
  cases live : c.live? with
  | some link =>
      have released := Untouched.of_lock truthful.placed task lock.release
      exact .connection ⟨released, h.connections, truthful, live, rfl, rfl, there⟩
  | none =>
      have none : c.current = none := by
        cases current : c.current with
        | none => rfl
        | some link =>
            have opened := (h.connections.current_open current).2
            cases live.symm.trans (Client.live?_eq_some_iff.mpr ⟨current, opened⟩)
      have same := Untouched.refl truthful.placed task
      have begun : Untouched task c { c with
          lock
          connecting := true
          dialled := c.dialled ++ [c.config.hostName c.settings] } :=
        ⟨same.board, same.older, same.tasks, same.outbox⟩
      refine Asking.gets ⟨begun.setPhase _, none ▸ h.connections, truthful, rfl, rfl, rfl, ?_⟩ ..
      exact .of_setPhase there (by simp)

theorem askLock_gets (h : Linked c) (truthful : c.board.Truthful) {t : Task}
    (found : c.tasks[task]? = some t) (asks : t.job.ask? = some ask) (dial : Dial) :
    Gets c task t.job ask (if c.lock.holder.isNone then c.connection dial else none)
      (c.askLock task t.job dial) := by
  unfold Client.askLock FairLock.acquire
  cases held : c.lock.holder with
  | none => exact withLock_gets h truthful found asks _ dial
  | some other =>
      obtain ⟨there, -⟩ := List.getElem?_eq_some_iff.mp found
      have queued := (Untouched.of_lock truthful.placed task
        { holder := some other, queue := c.lock.queue ++ [task] }).setPhase .queued
      exact .nothing queued (.of_setPhase there (by simp))

theorem Job.decode_of_asks {message : Json} (asks : (Job.relay message).ask? = some ask) :
    Relay.Ask.decode message = .ok ask := by
  cases read : Relay.Ask.decode message with
  | error e => simp [ask?, read, Except.toOption] at asks
  | ok other =>
      simp only [ask?, read, Except.toOption, Option.some.injEq] at asks
      rw [asks]

theorem start_gets (h : Linked c) (truthful : c.board.Truthful) {t : Task}
    (found : c.tasks[task]? = some t) (asks : t.job.ask? = some ask) (dial : Dial) :
    Gets c task t.job ask
      (if c.live?.isSome || c.lock.holder.isNone then c.connection dial else none)
      (c.start task t.job dial) := by
  obtain ⟨there, -⟩ := List.getElem?_eq_some_iff.mp found
  have sends : Gets c task t.job ask
      (if c.live?.isSome || c.lock.holder.isNone then c.connection dial else none)
      (match c.live? with
        | some link => c.send task link t.job ask
        | none => c.askLock task t.job dial) := by
    cases live : c.live? with
    | some link =>
        have connection : c.connection dial = some (.ok link) := by
          rw [Client.connection, live]
        simp only [Option.isSome_some, Bool.true_or, if_true, connection]
        have same := Untouched.refl truthful.placed task
        exact .connection ⟨same, h.connections, truthful, live, rfl, rfl, there⟩
    | none => exact askLock_gets h truthful found asks dial
  obtain ⟨job, phase⟩ := t
  unfold Client.start
  cases job with
  | disconnect => cases asks
  | call method params limited =>
      cases asks
      exact sends
  | relay message =>
      simp only [Job.decode_of_asks asks]
      exact sends

theorem proceed_gets (h : Linked c) (truthful : c.board.Truthful) {t : Task}
    (found : c.tasks[task]? = some t) (asks : t.job.ask? = some ask) (early : t.phase.rank < 3)
    (dial : Dial) : Gets c task t.job ask (c.offered task dial) (c.proceed task t dial) := by
  have phase := Client.phase?_of_found found
  obtain ⟨job, was⟩ := t
  unfold Client.offered Client.proceed
  rw [phase]
  cases was with
  | fresh => exact start_gets h truthful found asks dial
  | queued =>
      cases held : c.lock.isHeldBy task with
      | true => exact withLock_gets h truthful found asks c.lock dial
      | false => exact .nothing (.refl truthful.placed task) ⟨_, phase, early⟩
  | opening host =>
      have none := (h.opening phase).2
      simp only [asks]
      exact Asking.gets ⟨.refl truthful.placed task, none ▸ h.connections, truthful, rfl, rfl, rfl,
        _, phase, early⟩ ..
  | awaiting call => simp at early
  | done outcome => simp at early
  | cancelled => simp at early

/-! ### Steps -/

theorem Client.Fails.isOver {e : Failure} (fails : c.Fails task job e) : c.isOver task = true := by
  obtain ⟨t, found, done⟩ := Option.map_eq_some_iff.mp fails
  simp [Client.isOver, found, Task.isOver, done]

/-- A step is what its task does, unless the time of a call is up that still has to wait. -/
theorem Client.step_cases {t : Task} (found : c.tasks[task]? = some t) (dial : Dial)
    (timeUp : Bool) :
    c.step task dial timeUp = c.proceed task t dial ∨
      timeUp = true ∧ (c.proceed task t dial).isOver task = false ∧
        ∃ ns, t.job.isLimited = true ∧ c.step task dial timeUp =
          ((c.proceed task t dial).letGo task).setPhase task
            (.done (.response (.error (.timeout ns)))) := by
  unfold step
  rw [found]
  dsimp only
  split
  · rename_i ns limit
    split
    · rename_i up
      simp only [Bool.and_eq_true, Bool.not_eq_true'] at up
      exact .inr ⟨up.1.1, up.2, ns, up.1.2, rfl⟩
    · exact .inl rfl
  · exact .inl rfl

theorem Client.step_of_isOver {t : Task} (found : c.tasks[task]? = some t)
    (ended : (c.proceed task t dial).isOver task = true) (timeUp : Bool) :
    c.step task dial timeUp = c.proceed task t dial := by
  rcases c.step_cases found dial timeUp with same | ⟨-, waits, -⟩
  · exact same
  · rw [ended] at waits
    cases waits

/-! ### The configuration and the settings -/

/-- What a client is told when it is made, and where it looks settings up. -/
def Client.told (c : Client) : Config × Settings := (c.config, c.settings)

theorem Sent.told {out : List (Nat × Json)} (sent : Sent task link job ask c out c') :
    c'.told = c.told := by
  cases sent <;> rfl

theorem Client.letGo_told (c : Client) (task : Nat) : (c.letGo task).told = c.told := by
  unfold letGo
  split <;> rfl

theorem Client.letGo_config (c : Client) (task : Nat) : (c.letGo task).config = c.config :=
  congrArg Prod.fst (c.letGo_told task)

theorem Move.told {out : List (Nat × Json)} (move : Move task c out c') : c'.told = c.told := by
  cases move with
  | send found asks live sent => exact sent.told
  | sendLocked found asks grants live sent => exact sent.told
  | connect found asks sent => exact sent.told
  | disconnect found asks grants =>
      show c.giveUp.told = _
      unfold Client.giveUp
      cases c.current <;> rfl
  | expire found waits limited limit => exact c.letGo_told task
  | _ => rfl

theorem Move.config {out : List (Nat × Json)} (move : Move task c out c') :
    c'.config = c.config :=
  congrArg Prod.fst move.told

/-- Whether an event changes the settings. -/
def Event.configures : Event → Bool
  | .configure _ => true
  | _ => false

namespace Client

theorem takeEvents_told (c : Client) (link : Nat) (ended : Bool) (events : List PortEvent) :
    (c.takeEvents link ended events).told = c.told := by
  rw [takeEvents_eq]
  cases ending ended events <;> rfl

theorem happen_told (c : Client) {e : Event} (apart : e.configures = false) :
    (c.happen e).told = c.told := by
  cases e with
  | step task dial timeUp =>
      exact step_keeps (P := fun a => a.told = c.told)
        (fun before move => move.told.trans before) rfl dial timeUp
  | cancel task =>
      show (c.cancel task).told = _
      unfold cancel
      split
      · rfl
      · exact c.letGo_told task
  | attend link most =>
      show (c.attend link most).told = _
      unfold attend
      split
      · rfl
      · split
        · exact takeEvents_told ..
        · rfl
  | peer link act =>
      show (c.onPort link _ ()).2.told = _
      unfold onPort
      split
      · rfl
      · split <;> rfl
  | spawn job => rfl
  | configure settings => cases apart

theorem happen_config (c : Client) (e : Event) : (c.happen e).config = c.config := by
  cases apart : e.configures with
  | false => exact congrArg Prod.fst (c.happen_told apart)
  | true =>
      cases e with
      | configure settings => rfl
      | _ => cases apart

/-- A client keeps its configuration. -/
theorem run_config (c : Client) (es : List Event) : (c.run es).config = c.config := by
  induction es generalizing c with
  | nil => rfl
  | cons e es ih => exact (ih (c.happen e)).trans (c.happen_config e)

end Client

/-! ### Calls that fail before they wait -/

/-- Whose time is up is told so. -/
theorem Job.ne_timeout (limited : job.isLimited = true) (length limit ns : Nat) :
    job.conclude (.error (.frameTooLarge length limit)) ≠ .response (.error (.timeout ns)) := by
  cases job with
  | call method params isLimited => simp [conclude]
  | relay message => cases limited
  | disconnect => cases limited

/-- What comes of a step in which a call gets a connection. -/
theorem Tried.step {t : Task} (found : c.tasks[task]? = some t)
    (tried : Tried c task link t.job ask (c.proceed task t dial)) (timeUp : Bool) :
    Tried c task link t.job ask (c.step task dial timeUp) := by
  cases tried with
  | tooLong long fails untouched live =>
      rw [Client.step_of_isOver found fails.isOver]
      exact .tooLong long fails untouched live
  | shut fits shut fails untouched live =>
      rw [Client.step_of_isOver found fails.isOver]
      exact .shut fits shut fails untouched live
  | posted fits taken outbox goesOn =>
      rcases c.step_cases found dial timeUp with same | ⟨-, -, ns, limited, expired⟩
      · rw [same]
        exact .posted fits taken outbox goesOn
      · have port : (c.step task dial timeUp).port link = (c.proceed task t dial).port link := by
          rw [expired]
          exact Client.port_of_links_eq (Client.letGo_links ..) link
        refine .posted fits (port ▸ taken) ?_ fun length limit fails => ?_
        · rw [Client.outbox, port]
          exact outbox
        · rw [expired] at fails
          exact t.job.ne_timeout limited length limit ns
            (Phase.done.inj (ended_of_setPhase fails)).symm

namespace Tried

/-- Only a call that is too long is told so. -/
theorem tooLong_iff (tried : Tried c task link job ask c') :
    (∃ length limit, c'.Fails task job (.frameTooLarge length limit)) ↔
      c.config.limit < (c.request link ask).toJson.byteLength := by
  cases tried with
  | tooLong long fails => exact iff_of_true ⟨_, _, fails⟩ long
  | shut fits shut fails =>
      refine iff_of_false ?_ (Nat.not_lt_of_le fits)
      rintro ⟨length, limit, otherwise⟩
      cases Job.result_of_conclude (Phase.done.inj (Option.some.inj (otherwise.symm.trans fails)))
  | posted fits taken outbox goesOn =>
      refine iff_of_false ?_ (Nat.not_lt_of_le fits)
      rintro ⟨length, limit, fails⟩
      exact goesOn length limit fails

theorem of_long (tried : Tried c task link job ask c')
    (long : c.config.limit < (c.request link ask).toJson.byteLength) :
    c'.Fails task job
        (.frameTooLarge (c.request link ask).toJson.byteLength c.config.limit) ∧
      Untouched task c c' ∧ c'.live? = some link := by
  cases tried with
  | tooLong _ fails untouched live => exact ⟨fails, untouched, live⟩
  | shut fits => exact absurd fits (Nat.not_le_of_lt long)
  | posted fits => exact absurd fits (Nat.not_le_of_lt long)

theorem of_shut (tried : Tried c task link job ask c')
    (fits : (c.request link ask).toJson.byteLength ≤ c.config.limit)
    (shut : (c'.port link).outgoing.shut = true) :
    c'.Fails task job (.channelClosed "native port is disconnected") ∧ Untouched task c c' ∧
      c'.live? = some link := by
  cases tried with
  | tooLong long => exact absurd fits (Nat.not_le_of_lt long)
  | shut _ _ fails untouched live => exact ⟨fails, untouched, live⟩
  | posted _ taken => exact absurd shut (taken ▸ Bool.false_ne_true)

theorem of_taken (tried : Tried c task link job ask c')
    (fits : (c.request link ask).toJson.byteLength ≤ c.config.limit)
    (taken : (c'.port link).outgoing.shut = false) :
    c'.outbox link = c.outbox link ++ [(c.request link ask).toJson.sorted] := by
  cases tried with
  | tooLong long => exact absurd fits (Nat.not_le_of_lt long)
  | shut _ shut => exact absurd shut (taken ▸ Bool.false_ne_true)
  | posted _ _ outbox => exact outbox

end Tried

/-- As long as a call gets nothing, its task changes nothing else. A call that gets no connection,
whose request is too long, or whose request the host's side does not take, ends with a failure that
says so, and all else is as it was. With a connection a call is told that its request is too long
exactly if it is longer than the limit, and the connection stays the one that calls use. Nothing
more is assumed than that the call does not draw the number of one that still waits. -/
theorem failed_calls_leave_no_trace (config : Config) (settings : Settings) (es : List Event)
    {t : Task} (dial : Dial) (timeUp : Bool)
    (before : ((Client.fresh config settings).run es).tasks[task]? = some t)
    (asks : t.job.ask? = some ask) (early : t.phase.rank < 3)
    (unused : ∀ link k, (((Client.fresh config settings).run es).board.nextOf link, k) ∉
      (((Client.fresh config settings).run es).board.exchange link).waiting) :
    let c := (Client.fresh config settings).run es
    let c' := c.step task dial timeUp
    (c.offered task dial = none →
      Untouched task c c' ∧ (timeUp = false → c'.isOver task = false)) ∧
    (∀ e, c.offered task dial = some (.error e) →
      c'.Fails task t.job e ∧ Untouched task c c') ∧
    ∀ link, c.offered task dial = some (.ok link) →
      let length := (c.request link ask).toJson.byteLength
      ((∃ l most, c'.Fails task t.job (.frameTooLarge l most)) ↔ config.limit < length) ∧
      (config.limit < length → c'.Fails task t.job (.frameTooLarge length config.limit) ∧
        Untouched task c c' ∧ c'.live? = some link) ∧
      (length ≤ config.limit → (c'.port link).outgoing.shut = true →
        c'.Fails task t.job (.channelClosed "native port is disconnected") ∧
          Untouched task c c' ∧ c'.live? = some link) ∧
      (length ≤ config.limit → (c'.port link).outgoing.shut = false →
        c'.outbox link = c.outbox link ++ [(c.request link ask).toJson.sorted]) := by
  intro c c'
  have linked : Linked c := (linked_fresh config settings).run es
  have truthful : c.board.Truthful :=
    ((heeds_fresh config settings).run (linked_fresh config settings) es).truthful
  have sameConfig : c.config = config := (Client.fresh config settings).run_config es
  have gets := proceed_gets linked truthful before asks early dial
  refine ⟨fun nothing => ?_, fun e failure => ?_, fun link connection => ?_⟩
  · rw [nothing] at gets
    obtain ⟨untouched, waits⟩ := gets.waits
    have cases : c' = c.proceed task t dial ∨ _ := c.step_cases before dial timeUp
    rcases cases with same | ⟨up, -, ns, -, expired⟩
    · rw [same]
      exact ⟨untouched, fun _ => waits.not_isOver⟩
    · have ended : c' = _ := expired
      rw [ended]
      exact ⟨waits.letGo_untouched untouched _, fun notUp => by simp [up] at notUp⟩
  · rw [failure] at gets
    obtain ⟨fails, untouched⟩ := gets.fails
    have same : c' = c.proceed task t dial := Client.step_of_isOver before fails.isOver timeUp
    rw [same]
    exact ⟨fails, untouched⟩
  · rw [connection] at gets
    intro length
    have tried : Tried c task link t.job ask c' := (gets.tried (unused link)).step before timeUp
    rw [← sameConfig]
    exact ⟨tried.tooLong_iff, tried.of_long, tried.of_shut, tried.of_taken⟩

/-- A call waits whose request is as long as the limit allows, and the request of the next one is
longer by one byte. -/
def overLimit : List Event :=
  [.spawn (.call "m" .null false), .step 0 (fun _ => some (.ok .untouched)) false,
    .spawn (.call "mm" .null false)]

theorem longer_call_leaves_the_first_one :
    let c := (Client.fresh { limit := 51 } (.stored {})).run overLimit
    let c' := c.step 1 (fun _ => none) false
    c'.Fails 1 (.call "mm" .null false) (.frameTooLarge 52 51) ∧ Untouched 1 c c' ∧
      c'.live? = some 0 ∧ (c'.board.exchange 0).waiting = [(1, 0)] := by
  intro c c'
  have before : c.tasks[1]? = some { job := .call "mm" .null false } := rfl
  have routed : Routed c _ := (routed_fresh _ _).run (linked_fresh _ _) overLimit (by decide)
  have unused := routed.accounted.consistent.unused (by decide)
  obtain ⟨-, -, connected⟩ := failed_calls_leave_no_trace { limit := 51 } (.stored {}) overLimit
    (fun _ => none) false before rfl (by decide) unused
  obtain ⟨-, tooLong, -⟩ := connected 0 rfl
  obtain ⟨fails, untouched, live⟩ := tooLong (by decide)
  exact ⟨fails, untouched, live, (untouched.board.waiting 0).trans rfl⟩

end RpcLink.Native
