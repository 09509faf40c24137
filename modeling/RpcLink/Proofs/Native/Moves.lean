import RpcLink.Proofs.Native.Run

/-!
What a task does in one step. A step is made of moves: a task that gets the lock may begin to dial,
then it does one thing, and then its time may be up. The moves say all that a step can do, so that
what every move keeps is kept by every step. What a move posts is listed with the connection to
which it is posted.
-/

namespace RpcLink.Native

/-- What sending a request over a connection comes to. -/
inductive Sent (task link : Nat) (job : Job) (ask : Relay.Ask) (c : Client) :
    List (Nat × Json) → Client → Prop where
  /-- The connection is closed. -/
  | refused {reason : String} (closed : (c.board.exchange link).closed = some reason) :
      Sent task link job ask c [] (c.finish task job (.error (.channelClosed reason)))
  /-- The request is too long, or the host's side takes none. -/
  | withdrawn {request : Request} {call : Nat} {board : Switchboard} {e : Failure}
      (registered : c.board.register link ask.method ask.params = (.ok (request, call), board))
      (reason : e = .frameTooLarge request.toJson.byteLength c.config.limit ∧
          c.config.limit < request.toJson.byteLength ∨
        e = .channelClosed "native port is disconnected" ∧
          (c.port link).outgoing.shut = true) :
      Sent task link job ask c []
        ({ c with board := (board.forget link request.id).2 }.finish task job (.error e))
  | posted {request : Request} {call : Nat} {board : Switchboard}
      (registered : c.board.register link ask.method ask.params = (.ok (request, call), board))
      (fits : request.toJson.byteLength ≤ c.config.limit)
      (taken : (c.port link).outgoing.shut = false) :
      Sent task link job ask c [(link, request.toJson.sorted)]
        ({ c with
            board
            links := c.links.modify link fun l =>
              { l with port := ((c.port link).post request.toJson.sorted).2 } }.setPhase task
          (.awaiting call))

/-- The lock as a task in a phase goes on with it: it takes it, or was given it. -/
inductive Grants (c : Client) (task : Nat) : Phase → FairLock → Prop where
  | free (free : c.lock.holder = none) :
      Grants c task .fresh { c.lock with holder := some task }
  | turn (held : c.lock.holder = some task) : Grants c task .queued c.lock

/-- The connection is given up, if there is one. -/
def Client.giveUp (c : Client) : Client :=
  match c.current with
  | some link => { c with current := none, board := (c.board.abort link disconnectReason).2 }
  | none => c

theorem Client.giveUp_of_none {c : Client} (none : c.current = none) : c.giveUp = c := by
  simp [giveUp, none]

theorem Client.giveUp_of_some {c : Client} {link : Nat} (current : c.current = some link) :
    c.giveUp =
      { c with current := none, board := (c.board.abort link disconnectReason).2 } := by
  simp [giveUp, current]

@[simp] theorem Client.giveUp_tasks (c : Client) : c.giveUp.tasks = c.tasks := by
  unfold giveUp
  cases c.current <;> rfl

/-- A task that holds the lock asks the connector for a port. -/
def Client.dialling (c : Client) (task : Nat) (lock : FairLock) : Client :=
  { c with
    lock
    connecting := true
    dialled := c.dialled ++ [c.config.hostName c.settings] }.setPhase task
      (.opening (c.config.hostName c.settings))

/-- One thing that a task does, and what it posts thereby. -/
inductive Move (task : Nat) (c : Client) : List (Nat × Json) → Client → Prop where
  /-- A message that asks for no call is refused. -/
  | refuse {message : Json} {e : Json.DecodeError}
      (found : c.tasks[task]? = some { job := .relay message, phase := .fresh })
      (unread : Relay.Ask.decode message = .error e) :
      Move task c [] (c.setPhase task (.done (.reply (Relay.Reply.refused e).toJson.sorted)))
  /-- The lock is held, and the task waits for it. -/
  | queue {job : Job} {other : Nat}
      (found : c.tasks[task]? = some { job, phase := .fresh })
      (held : c.lock.holder = some other) :
      Move task c [] ({ c with lock := { c.lock with queue := c.lock.queue ++ [task] } }.setPhase
        task .queued)
  /-- There is a connection, and the lock is not asked for. -/
  | send {job : Job} {ask : Relay.Ask} {link : Nat} {out : List (Nat × Json)} {c' : Client}
      (found : c.tasks[task]? = some { job, phase := .fresh }) (asks : job.ask? = some ask)
      (live : c.live? = some link) (sent : Sent task link job ask c out c') : Move task c out c'
  /-- There is a connection when the task gets the lock. -/
  | sendLocked {job : Job} {phase : Phase} {lock : FairLock} {ask : Relay.Ask} {link : Nat}
      {out : List (Nat × Json)} {c' : Client}
      (found : c.tasks[task]? = some { job, phase }) (asks : job.ask? = some ask)
      (grants : Grants c task phase lock) (live : c.live? = some link)
      (sent : Sent task link job ask { c with lock := lock.release } out c') : Move task c out c'
  /-- There is none, and the connector is asked. -/
  | dial {job : Job} {phase : Phase} {lock : FairLock} {ask : Relay.Ask}
      (found : c.tasks[task]? = some { job, phase }) (asks : job.ask? = some ask)
      (grants : Grants c task phase lock) (dead : c.live? = none) :
      Move task c [] (c.dialling task lock)
  /-- The connector has no port. -/
  | fail {job : Job} {ask : Relay.Ask} {host : String} {e : Failure}
      (found : c.tasks[task]? = some { job, phase := .opening host })
      (asks : job.ask? = some ask) :
      Move task c []
        ({ c with
            connecting := false
            opened := true
            current := none
            lock := c.lock.release }.finish task job (.error e))
  /-- The connector has a port, and the request is sent over it. -/
  | connect {job : Job} {ask : Relay.Ask} {host : String} {fresh : FreshPort}
      {out : List (Nat × Json)} {c' : Client}
      (found : c.tasks[task]? = some { job, phase := .opening host })
      (asks : job.ask? = some ask)
      (sent : Sent task c.links.length job ask
        { c with
          connecting := false
          opened := true
          links := c.links ++ [{ host, port := fresh.toPort }]
          board := c.board.openExchange
          current := some c.links.length
          lock := c.lock.release } out c') : Move task c out c'
  | disconnect {job : Job} {phase : Phase} {lock : FairLock}
      (found : c.tasks[task]? = some { job, phase }) (asks : job.ask? = none)
      (grants : Grants c task phase lock) :
      Move task c []
        ({ c.giveUp with lock := lock.release }.setPhase task (.done .disconnected))
  /-- The call of the task was resolved. -/
  | answer {job : Job} {call : Nat} {result : Except Failure Response} {board : Switchboard}
      (found : c.tasks[task]? = some { job, phase := .awaiting call })
      (told : c.board.poll call = (.done result, board)) :
      Move task c [] ({ c with board }.finish task job result)
  /-- The time of the task is up. -/
  | expire {t : Task} {ns : Nat} (found : c.tasks[task]? = some t) (waits : t.isOver = false)
      (limited : t.job.isLimited = true) (limit : c.config.timeout = some ns) :
      Move task c [] ((c.letGo task).setPhase task (.done (.response (.error (.timeout ns)))))

/-- A task makes at most one move. -/
def Moved (task : Nat) (c : Client) (out : List (Nat × Json)) (c' : Client) : Prop :=
  out = [] ∧ c' = c ∨ Move task c out c'

namespace Client

variable {c : Client} {task : Nat} {job : Job} {ask : Relay.Ask} {dial : Dial}

theorem send_sent (c : Client) (task link : Nat) (job : Job) (ask : Relay.Ask) :
    ∃ out, Sent task link job ask c out (c.send task link job ask) := by
  cases registered : c.board.register link ask.method ask.params with
  | mk result board =>
      cases result with
      | error e =>
          have closed : ∃ reason, (c.board.exchange link).closed = some reason ∧
              e = .channelClosed reason ∧ board = c.board := by
            unfold Switchboard.register at registered
            split at registered
            · rename_i reason closed
              cases registered
              exact ⟨reason, closed, rfl, rfl⟩
            · cases registered
          obtain ⟨reason, closed, rfl, rfl⟩ := closed
          simp only [send, registered]
          exact ⟨_, .refused closed⟩
      | ok entry =>
          obtain ⟨request, call⟩ := entry
          simp only [send, registered]
          split
          · rename_i long
            exact ⟨_, .withdrawn registered (.inl ⟨rfl, long⟩)⟩
          · rename_i fits
            have shape : (c.links[link]?.map Link.port).getD {} = c.port link := rfl
            rw [shape]
            cases shut : (c.port link).outgoing.shut with
            | true =>
                have refusal : (c.port link).post request.toJson.sorted =
                    (.error (.channelClosed "native port is disconnected"), c.port link) := by
                  simp [Port.post, Conduit.send, shut]
                rw [refusal]
                exact ⟨_, .withdrawn registered (.inr ⟨rfl, shut⟩)⟩
            | false =>
                have success : (c.port link).post request.toJson.sorted =
                    (.ok (), ((c.port link).post request.toJson.sorted).2) := by
                  simp [Port.post, Conduit.send, shut]
                rw [success]
                exact ⟨_, .posted registered (Nat.le_of_not_lt fits) shut⟩

theorem concludeAttempt_moved {host : String}
    (found : c.tasks[task]? = some { job, phase := .opening host }) (asks : job.ask? = some ask)
    (answer : Option (Except Failure FreshPort)) :
    ∃ out, Moved task c out (c.concludeAttempt task job ask host answer) := by
  match answer with
  | none => exact ⟨[], .inl ⟨rfl, rfl⟩⟩
  | some (.error e) => exact ⟨[], .inr (.fail found asks)⟩
  | some (.ok fresh) =>
      obtain ⟨out, sent⟩ := send_sent _ task c.links.length job ask
      exact ⟨out, .inr (.connect found asks sent)⟩

/-- A task that gets the lock may begin to dial, and then does one thing. -/
theorem withLock_moved {phase : Phase} {lock : FairLock}
    (found : c.tasks[task]? = some { job, phase }) (grants : Grants c task phase lock) :
    ∃ a out, Moved task c [] a ∧ Moved task a out ({ c with lock }.withLock task job dial) := by
  cases asks : job.ask? with
  | none =>
      refine ⟨c, [], .inl ⟨rfl, rfl⟩, .inr ?_⟩
      have move := Move.disconnect found asks grants
      unfold withLock disconnect
      simp only [asks]
      cases current : c.current with
      | none =>
          rw [giveUp_of_none current] at move
          simp only [current] at move
          exact move
      | some link =>
          rw [giveUp_of_some current] at move
          exact move
  | some ask =>
      unfold withLock connect
      simp only [asks]
      have live_eq : live? { c with lock } = c.live? := rfl
      rw [live_eq]
      cases live : c.live? with
      | some link =>
          obtain ⟨out, sent⟩ := send_sent { c with lock := lock.release } task link job ask
          exact ⟨c, out, .inl ⟨rfl, rfl⟩, .inr (.sendLocked found asks grants live sent)⟩
      | none =>
          have opening : (c.dialling task lock).tasks[task]? =
              some { job, phase := .opening (c.config.hostName c.settings) } := by
            rw [dialling, setPhase_getElem?, found]
            simp
          obtain ⟨out, moved⟩ := concludeAttempt_moved opening asks
            (dial (c.config.hostName c.settings))
          exact ⟨c.dialling task lock, out, .inr (.dial found asks grants live), moved⟩

theorem askLock_moved (found : c.tasks[task]? = some { job, phase := .fresh }) :
    ∃ a out, Moved task c [] a ∧ Moved task a out (c.askLock task job dial) := by
  unfold askLock FairLock.acquire
  cases held : c.lock.holder with
  | none => exact withLock_moved found (.free held)
  | some other =>
      refine ⟨c, [], .inl ⟨rfl, rfl⟩, .inr ?_⟩
      have move := Move.queue found held
      simp only [held] at move
      exact move

theorem start_moved (found : c.tasks[task]? = some { job, phase := .fresh }) :
    ∃ a out, Moved task c [] a ∧ Moved task a out (c.start task job dial) := by
  have sends : ∀ ask, job.ask? = some ask → ∃ a out, Moved task c [] a ∧
      Moved task a out (match c.live? with
        | some link => c.send task link job ask
        | none => c.askLock task job dial) := by
    intro ask asks
    cases live : c.live? with
    | some link =>
        obtain ⟨out, sent⟩ := send_sent c task link job ask
        exact ⟨c, out, .inl ⟨rfl, rfl⟩, .inr (.send found asks live sent)⟩
    | none => exact askLock_moved found
  unfold start
  cases job with
  | disconnect => exact askLock_moved found
  | call method params limited => exact sends _ rfl
  | relay message =>
      cases asked : Relay.Ask.decode message with
      | error e =>
          simp only [asked]
          exact ⟨c, [], .inl ⟨rfl, rfl⟩, .inr (.refuse found asked)⟩
      | ok ask =>
          have asks : (Job.relay message).ask? = some ask := by
            simp [Job.ask?, asked, Except.toOption]
          simp only [asked]
          exact sends ask asks

theorem proceed_moved {t : Task} (found : c.tasks[task]? = some t) (dial : Dial) :
    ∃ a out, Moved task c [] a ∧ Moved task a out (c.proceed task t dial) := by
  have stays : ∃ a out, Moved task c [] a ∧ Moved task a out c :=
    ⟨c, [], .inl ⟨rfl, rfl⟩, .inl ⟨rfl, rfl⟩⟩
  obtain ⟨job, phase⟩ := t
  unfold proceed
  cases phase with
  | fresh => exact start_moved found
  | queued =>
      by_cases held : c.lock.holder = some task
      · simp only [FairLock.isHeldBy, held, beq_self_eq_true, if_true]
        exact withLock_moved found (.turn held)
      · simpa [FairLock.isHeldBy, held] using stays
  | opening host =>
      cases asks : job.ask? with
      | none => simpa only [asks] using stays
      | some ask =>
          obtain ⟨out, moved⟩ := concludeAttempt_moved found asks (dial host)
          refine ⟨c, out, .inl ⟨rfl, rfl⟩, ?_⟩
          simpa only [asks] using moved
  | awaiting call =>
      cases told : c.board.poll call with
      | mk standing board =>
          cases standing with
          | done result =>
              refine ⟨c, [], .inl ⟨rfl, rfl⟩, .inr ?_⟩
              simpa only [told] using Move.answer found told
          | waiting id => simpa only [told] using stays
          | gone => simpa only [told] using stays
  | done outcome => exact stays
  | cancelled => exact stays

end Client

/-! ### Steps -/

theorem Sent.jobs {task link : Nat} {job : Job} {ask : Relay.Ask} {c c' : Client}
    {out : List (Nat × Json)} (sent : Sent task link job ask c out c') :
    c'.tasks.map Task.job = c.tasks.map Task.job := by
  cases sent with
  | refused closed => exact Client.setPhase_jobs ..
  | withdrawn registered reason => exact Client.setPhase_jobs ..
  | posted registered fits taken => exact Client.setPhase_jobs ..

/-- No move changes what the tasks are to do. -/
theorem Move.jobs {task : Nat} {c c' : Client} {out : List (Nat × Json)}
    (move : Move task c out c') : c'.tasks.map Task.job = c.tasks.map Task.job := by
  cases move with
  | refuse found unread => exact Client.setPhase_jobs ..
  | queue found held => exact Client.setPhase_jobs ..
  | send found asks live sent => exact sent.jobs
  | sendLocked found asks grants live sent => exact sent.jobs
  | dial found asks grants dead => exact Client.setPhase_jobs ..
  | fail found asks => exact Client.setPhase_jobs ..
  | connect found asks sent => exact sent.jobs
  | disconnect found asks grants =>
      rw [Client.setPhase_jobs, Client.giveUp_tasks]
  | answer found told => exact Client.setPhase_jobs ..
  | expire found waits limited limit =>
      rw [Client.setPhase_jobs, Client.letGo_tasks]

theorem Moved.jobs {task : Nat} {c c' : Client} {out : List (Nat × Json)}
    (moved : Moved task c out c') : c'.tasks.map Task.job = c.tasks.map Task.job := by
  rcases moved with ⟨-, rfl⟩ | move
  · rfl
  · exact move.jobs

namespace Client

/-- A step is made of at most three moves, of which only the second one may post something. -/
theorem step_moved (c : Client) (task : Nat) (dial : Dial) (timeUp : Bool) :
    ∃ a out b, Moved task c [] a ∧ Moved task a out b ∧
      Moved task b [] (c.step task dial timeUp) := by
  unfold step
  cases found : c.tasks[task]? with
  | none => exact ⟨c, [], c, .inl ⟨rfl, rfl⟩, .inl ⟨rfl, rfl⟩, .inl ⟨rfl, rfl⟩⟩
  | some t =>
      obtain ⟨a, out, begun, moved⟩ := proceed_moved found dial
      refine ⟨a, out, c.proceed task t dial, begun, moved, ?_⟩
      have jobs := moved.jobs.trans begun.jobs
      dsimp only
      generalize c.proceed task t dial = b at jobs
      have entry : b.tasks[task]?.map Task.job = some t.job := by
        rw [← List.getElem?_map, jobs, List.getElem?_map, found]
        rfl
      obtain ⟨u, there, same⟩ := Option.map_eq_some_iff.mp entry
      cases limit : b.config.timeout with
      | none => exact .inl ⟨rfl, rfl⟩
      | some ns =>
          dsimp only
          by_cases isUp : timeUp && t.job.isLimited && !b.isOver task
          · rw [if_pos isUp]
            simp only [Bool.and_eq_true, Bool.not_eq_true', isOver, there] at isUp
            exact .inr (.expire there isUp.2 (same ▸ isUp.1.2) limit)
          · rw [if_neg isUp]
            exact .inl ⟨rfl, rfl⟩

/-- What every move of a task keeps is kept by its steps. -/
theorem step_keeps {P : Client → Prop} {c : Client} {task : Nat}
    (keeps : ∀ {a out b}, P a → Move task a out b → P b) (h : P c) (dial : Dial) (timeUp : Bool) :
    P (c.step task dial timeUp) := by
  have moved : ∀ {a out b}, P a → Moved task a out b → P b := by
    rintro a out b holds (⟨-, rfl⟩ | move)
    · exact holds
    · exact keeps holds move
  obtain ⟨a, out, b, first, second, third⟩ := c.step_moved task dial timeUp
  exact moved (moved (moved h first) second) third

end Client

end RpcLink.Native
