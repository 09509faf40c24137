import RpcLink.Proofs.Native.Draining

/-!
How a connection ends. The pump takes what was queued before the end, and then the end is told to
all calls that still wait; what is queued behind it is dropped, and the client has no connection
until the next call asks for one.
-/

namespace RpcLink

namespace Native

variable {c c' : Client} {task link : Nat} {job : Job} {ask : Relay.Ask} {reason : String}

/-! ### The last events -/

theorem ending_append {gone : Bool} (vs : List Json) (rest : List PortEvent) :
    ending gone (vs.map .message ++ rest) = ending gone rest := by
  induction vs with
  | nil => rfl
  | cons v vs ih => exact ih

theorem messages_append (vs : List Json) (rest : List PortEvent) :
    messages (vs.map .message ++ rest) = vs ++ messages rest := by
  induction vs with
  | nil => rfl
  | cons v vs ih => exact congrArg (v :: ·) ih

/-- An end among the first events is that of all of them. -/
theorem ending_take {gone : Bool} {count : Nat} {events : List PortEvent}
    (ends : ending (gone && events.length < count) (events.take count) = some reason) :
    ending gone events = some reason ∧ messages (events.take count) = messages events := by
  induction events generalizing count with
  | nil =>
      rw [List.take_nil] at ends ⊢
      cases gone with
      | false => cases ends
      | true =>
          refine ⟨?_, rfl⟩
          unfold ending at ends ⊢
          split at ends
          · exact ends
          · cases ends
  | cons event rest ih =>
      cases count with
      | zero => simp [ending] at ends
      | succ count =>
          rw [List.take_succ_cons] at ends ⊢
          cases event with
          | message v =>
              simp only [List.length_cons, Nat.add_lt_add_iff_right] at ends
              obtain ⟨last, same⟩ := ih ends
              exact ⟨last, congrArg (v :: ·) same⟩
          | disconnected other => exact ⟨ends, rfl⟩

theorem modify_congr {α : Type} {xs : List α} {k : Nat} {x : α} {f g : α → α}
    (found : xs[k]? = some x) (same : f x = g x) : xs.modify k f = xs.modify k g := by
  apply List.ext_getElem?
  intro i
  rw [List.getElem?_modify, List.getElem?_modify]
  by_cases here : k = i
  · subst here
    simp [found, same]
  · simp [here]

/-- What the client is when a connection has ended with these events. -/
def Client.concluded (c : Client) (link : Nat) (reason : String) : Client :=
  { c with board := c.board.dispatchAll link ((messages (c.queued link)).map .message) }.endLink
    link reason

/-- Taking events comes to the end of the connection, if that is among them. -/
theorem Client.attend_of_ending {l : Link} (found : c.links[link]? = some l)
    (attended : l.attended = true) (most : Option Nat)
    (ends : ending (l.port.events.ended &&
        l.port.events.items.length < most.getD (l.port.events.items.length + 1))
      (l.port.events.items.take (most.getD (l.port.events.items.length + 1))) = some reason) :
    c.attend link most = c.concluded link reason := by
  obtain ⟨-, same⟩ := ending_take ends
  rw [attend_eq found attended]
  dsimp only
  rw [ends, same, concluded, queued, port_of_found found]
  unfold endIf endLink
  dsimp only
  rw [List.modify_modify_eq]
  congr 1
  exact modify_congr found rfl

/-- Taking some of the events of the current connection leaves it, or comes to its end. -/
theorem Client.attend_cases (attended : Attended c) (current : c.current = some link)
    (ends : ending (c.port link).events.ended (c.queued link) = some reason) (most : Option Nat) :
    (c.attend link most).current = some link ∨ c.attend link most = c.concluded link reason := by
  obtain ⟨l, found, isAttended⟩ := attended link current
  rw [queued, port_of_found found] at ends
  cases partial? : ending (l.port.events.ended &&
        l.port.events.items.length < most.getD (l.port.events.items.length + 1))
      (l.port.events.items.take (most.getD (l.port.events.items.length + 1))) with
  | none =>
      left
      rw [attend_eq found isAttended]
      dsimp only
      rw [partial?]
      exact current
  | some other =>
      right
      obtain ⟨whole, -⟩ := ending_take partial?
      obtain rfl : other = reason := Option.some.inj (whole.symm.trans ends)
      exact attend_of_ending found isAttended most partial?

/-- Taking all of them comes to the end. -/
theorem Client.attend_all (attended : Attended c) (current : c.current = some link)
    (ends : ending (c.port link).events.ended (c.queued link) = some reason) :
    c.attend link none = c.concluded link reason ∧
      c.receipts link none = (messages (c.queued link)).map (.received link) := by
  obtain ⟨l, found, isAttended⟩ := attended link current
  rw [queued, port_of_found found] at ends ⊢
  have all : l.port.events.items.take (l.port.events.items.length + 1) = l.port.events.items :=
    List.take_of_length_le (Nat.le_succ _)
  constructor
  · apply attend_of_ending found isAttended
    rw [Option.getD_none, all]
    simpa using ends
  · simp [receipts, found, isAttended, all]

/-! ### After the end -/

theorem Client.happen_of_unattended (unattended : c.links[link]?.map Link.attended = some false)
    {e : Event} (there : e.port? = some link) :
    c.crossings e = [] ∧ (c.happen e).links[link]?.map Link.attended = some false := by
  obtain ⟨l, found, ended⟩ := Option.map_eq_some_iff.mp unattended
  cases e with
  | attend k most =>
      obtain rfl := Option.some.inj there
      have still : c.attend k most = c := by simp [attend, found, ended]
      refine ⟨by simp [crossings, receipts, found, ended], ?_⟩
      show (c.attend k most).links[k]?.map Link.attended = some false
      rw [still]
      exact unattended
  | peer k act =>
      obtain rfl := Option.some.inj there
      refine ⟨rfl, ?_⟩
      rw [← List.getElem?_map, c.peer_attended k act, List.getElem?_map]
      exact unattended
  | _ => cases there

theorem Client.traffic_of_unattended (unattended : c.links[link]?.map Link.attended = some false)
    {late : List Event} (ports : ∀ e ∈ late, e.port? = some link) : c.traffic late = [] := by
  induction late generalizing c with
  | nil => rfl
  | cons e late ih =>
      obtain ⟨nothing, still⟩ := happen_of_unattended unattended (ports e List.mem_cons_self)
      rw [traffic, nothing, List.nil_append]
      exact ih still fun e' member => ports e' (List.mem_cons_of_mem _ member)

/-- What happens on a port whose events are no longer taken changes nothing but the port. -/
theorem Client.run_of_unattended (linked : Linked c)
    (unattended : c.links[link]?.map Link.attended = some false) (other : c.current ≠ some link)
    {late : List Event} (ports : ∀ e ∈ late, e.port? = some link) :
    c.run late = { c with links := (c.run late).links } := by
  have overhears := run_of_stale linked fun e member => ⟨link, ports e member, other⟩
  rw [traffic_of_unattended unattended ports] at overhears
  simpa using overhears.eq

/-! ### The next call -/

theorem Client.concludeAttempt_dialled (c : Client) (task : Nat) (job : Job) (ask : Relay.Ask)
    (host : String) (answer : Option (Except Failure FreshPort)) :
    (c.concludeAttempt task job ask host answer).dialled = c.dialled := by
  match answer with
  | none => rfl
  | some (.error e) => rfl
  | some (.ok fresh) =>
      obtain ⟨out, sent⟩ := send_sent _ task c.links.length job ask
      exact sent.dialled

/-- A task that gets the lock while there is no connection asks the connector. -/
theorem Client.withLock_dialled (asks : job.ask? = some ask) (dead : c.live? = none)
    (lock : FairLock) (dial : Dial) :
    ({ c with lock }.withLock task job dial).dialled =
      c.dialled ++ [c.config.hostName c.settings] := by
  have still : live? { c with lock } = none := dead
  unfold withLock connect
  simp only [asks, still]
  exact concludeAttempt_dialled ..

theorem Client.start_of_dead (asks : job.ask? = some ask) (dead : c.live? = none) (dial : Dial) :
    c.start task job dial = c.askLock task job dial := by
  unfold start
  cases job with
  | disconnect => cases asks
  | call method params limited => simp only [dead]
  | relay message =>
      cases asked : Relay.Ask.decode message with
      | error e => simp [Job.ask?, asked, Except.toOption] at asks
      | ok ask => simp only [asked, dead]

/-- The task of a call that gets the lock while there is no connection asks for one. -/
theorem Client.step_dialled {phase : Phase} {lock : FairLock}
    (found : c.tasks[task]? = some { job, phase }) (asks : job.ask? = some ask)
    (grants : Grants c task phase lock) (dead : c.live? = none) (dial : Dial) (timeUp : Bool) :
    (c.step task dial timeUp).dialled = c.dialled ++ [c.config.hostName c.settings] := by
  have proceeds : (c.proceed task { job, phase } dial).dialled =
      c.dialled ++ [c.config.hostName c.settings] := by
    unfold proceed
    cases grants with
    | free free =>
        dsimp only
        rw [start_of_dead asks dead]
        simp only [askLock, FairLock.acquire, free]
        exact withLock_dialled asks dead _ dial
    | turn held =>
        simp only [FairLock.isHeldBy, held, beq_self_eq_true, if_true]
        exact withLock_dialled asks dead _ dial
  unfold step
  rw [found]
  dsimp only
  split
  · split
    · exact (letGo_dialled _ task).trans proceeds
    · exact proceeds
  · exact proceeds

/-! ### The end of a connection -/

/-- What becomes of a call that waited for a response among messages when its channel closed behind
them. -/
def lastStatus (id : UInt64) (vs : List Json) (reason : String) : CallStatus Response :=
  match firstResponse id vs with
  | some r => .answered r
  | none => .rejected reason

theorem status?_concluded (placed : c.board.Placed) {vs : List Json} {w : UInt64 × Nat}
    (fares : c.board.Fares link w vs) (reason : String) :
    (c.concluded link reason).board.status? w.2 =
      some (lastStatus w.1 (vs ++ messages (c.queued link)) reason) := by
  have dispatched := placed.dispatchAll link ((messages (c.queued link)).map .message)
  have whole := fares.append dispatched fun waits =>
    Switchboard.dispatchAll_fares placed waits (messages (c.queued link))
  unfold Switchboard.Fares at whole
  unfold lastStatus
  cases answered : firstResponse w.1 (vs ++ messages (c.queued link)) with
  | some r =>
      rw [answered] at whole
      exact (dispatched.placed.abort link reason).status?_eq whole (by simp)
  | none =>
      rw [answered] at whole
      exact (Switchboard.abort_of_waits dispatched.placed whole reason).2.statuses _ _ whole

/-- Whoever still awaits a call that is no longer waiting is told what became of it. -/
theorem poll_of_status {b : Switchboard} {call : Nat} {d : Call} {status : CallStatus Response}
    (found : b.calls[call]? = some d) (awaited : d.settled = false)
    (stands : b.status? call = some status) (done : status ≠ .waiting) (id : UInt64) :
    (b.poll call).1 = .ofStatus id status := by
  rw [Switchboard.status?, found] at stands
  obtain rfl : d.status = status := Option.some.inj stands
  rw [Switchboard.poll_of_awaited found awaited]
  cases status : d.status with
  | waiting => exact absurd status done
  | answered r => rfl
  | rejected reason => rfl
  | orphaned => rfl

/-- The reason with which a connection ends is that for which its channel is closed. -/
theorem closed_concluded (linked : Linked c) (current : c.current = some link) :
    ((c.concluded link reason).board.exchange link).closed = some reason := by
  obtain ⟨inside, isOpen⟩ := linked.connections.current_open current
  have shrinks := c.board.shrinks_dispatchAll link ((messages (c.queued link)).map .message)
  have there : link < (c.board.dispatchAll link
      ((messages (c.queued link)).map .message)).exchanges.length := by
    rw [shrinks.length_eq, linked.connections.aligned]
    exact inside
  show ((Switchboard.abort _ link reason).2.exchange link).closed = some reason
  rw [Switchboard.abort_of_open ((shrinks.closed_eq link).trans isOpen),
    Switchboard.observe_exchange, Switchboard.resolveAll_exchange,
    Switchboard.exchange_setExchange, if_pos ⟨rfl, there⟩]

theorem current_concluded (current : c.current = some link) :
    (c.concluded link reason).current = none := by
  simp [Client.concluded, Client.endLink, current]

theorem unattended_concluded (inside : link < c.links.length) :
    (c.concluded link reason).links[link]?.map Link.attended = some false := by
  simp [Client.concluded, Client.endLink, inside]

/-- The events of a port are applied in order, and none that was queued before the end is lost. From
a moment at which a connection is open, as long as it stays the current one and no call is
registered, whatever else happens: once the pump has taken what was queued and what came, it has
taken the messages before the first end in order; every call that waited is answered by the first
response to it among them, or rejected with the reason of that end; and the client has no connection
any more, so that the next call asks for one. What is queued behind the end, or comes later, has no
effect. -/
theorem queued_events_come_before_end (config : Config) (settings : Settings)
    (es during : List Event) {link : Nat} {reason : String} :
    let c := (Client.fresh config settings).run es
    let last := c.run during
    let queue := c.queued link ++ c.arrivals link during
    let c' := last.attend link none
    c.live? = some link → last.current = some link →
    last.board.calls.length = c.board.calls.length →
    ending (last.port link).events.ended queue = some reason →
    c' = last.concluded link reason ∧
    c.taken link (during ++ [.attend link none]) = messages queue ∧
    (∀ id call, (id, call) ∈ (c.board.exchange link).waiting →
      c'.board.status? call = some (lastStatus id (messages queue) reason) ∧
      ∀ d, c'.board.calls[call]? = some d → d.settled = false →
        (c'.board.poll call).1 = .ofStatus id (lastStatus id (messages queue) reason)) ∧
    (c'.board.exchange link).closed = some reason ∧ (c'.board.exchange link).waiting = [] ∧
    c'.current = none ∧ c'.live? = none ∧
    -- To take the events one after the other comes to the same in the end.
    (∀ most, (last.attend link most).current = some link ∨ last.attend link most = c') ∧
    (∀ late, (∀ e ∈ late, e.port? = some link) →
      c'.run late = { c' with links := (c'.run late).links }) ∧
    ∀ task job phase lock ask dial timeUp, c'.tasks[task]? = some { job, phase } →
      job.ask? = some ask → Grants c' task phase lock →
      (c'.step task dial timeUp).dialled = c'.dialled ++ [c'.config.hostName c'.settings] := by
  intro c last queue c' live current count ends
  have linked : Linked c := (linked_fresh config settings).run es
  have linked' : Linked last := linked.run during
  have attended : Attended c :=
    (attended_fresh config settings).run (linked_fresh config settings) es
  have attended' : Attended last := attended.run linked during
  have placed : c.board.Placed :=
    ((Client.fresh config settings).run_follows es Switchboard.placed_empty).placed
  have inside := (linked.connections.current_open (Client.live?_eq_some_iff.mp live).1).1
  have drains := Client.run_drains linked attended placed inside current count
  have placed' : last.board.Placed := drains.follows.placed
  have queue_eq : queue = (c.taken link during).map .message ++ last.queued link := drains.queue
  rw [queue_eq, ending_append] at ends
  have received : messages queue = c.taken link during ++ messages (last.queued link) := by
    rw [queue_eq, messages_append]
  obtain ⟨whole, receipts⟩ := Client.attend_all attended' current ends
  have shape : c' = last.concluded link reason := whole
  have inside' := (linked'.connections.current_open current).1
  have lost : c'.current = none := by
    rw [shape]
    exact current_concluded current
  have dead : c'.live? = none := by
    rw [Client.live?, lost]
    rfl
  have linkedEnd : Linked c' := linked'.attend link none
  have unattended : c'.links[link]?.map Link.attended = some false := by
    rw [shape]
    exact unattended_concluded inside'
  have insideEnd : link < c'.links.length := by
    obtain ⟨l, found, -⟩ := Option.map_eq_some_iff.mp unattended
    exact (List.getElem?_eq_some_iff.mp found).1
  have nobody := (linkedEnd.connections.retired insideEnd (by simp [lost])).2
  refine ⟨shape, ?_, fun id call waits => ?_, ?_, nobody, lost, dead, fun most => ?_,
    fun late => Client.run_of_unattended linkedEnd unattended (by simp [lost]),
    fun task job phase lock ask dial timeUp found asks grants =>
      Client.step_dialled found asks grants dead dial timeUp⟩
  · rw [received, Client.taken, Client.traffic_append, List.filterMap_append]
    show c.taken link during ++ (last.receipts link none ++ []).filterMap _ = _
    rw [List.append_nil, receipts, received_from?, if_pos rfl]
  · have stands := status?_concluded placed' (drains.fares (id, call) waits) reason
    rw [← received, ← shape] at stands
    have done : lastStatus id (messages queue) reason ≠ .waiting := by
      unfold lastStatus
      split <;> simp
    exact ⟨stands, fun d found awaited => poll_of_status found awaited stands done id⟩
  · rw [shape]
    exact closed_concluded linked' current
  · rw [shape]
    exact Client.attend_cases attended' current ends most

/-- Two calls wait, and the host's side has sent something that is no response. -/
def twoWaiting : List Event :=
  let dial : Dial := fun _ => some (.ok .untouched)
  [.spawn (.call "status" .null false), .spawn (.call "status" .null false), .step 0 dial false,
    .step 1 dial false, .peer 0 (.send .null)]

/-- The second call is answered, and a response to the first one is queued behind the end. -/
def interrupted : List Event :=
  let answer (id : UInt64) : Json := .object [("id", .ofUInt64 id), ("result", .null)]
  [.peer 0 (.send (answer 2)), .attend 0 (some 1), .peer 0 (.disconnect "host exited"),
    .peer 0 (.send (answer 1)), .peer 0 .drop]

/-- The second call is answered, and the first is rejected with the reason of the end. -/
theorem response_before_end_counts :
    let c := (Client.fresh {} (.stored {})).run twoWaiting
    let last := c.run interrupted
    let queue := c.queued 0 ++ c.arrivals 0 interrupted
    c.live? = some 0 ∧ last.current = some 0 ∧
      last.board.calls.length = c.board.calls.length ∧
      ending (last.port 0).events.ended queue = some "host exited" ∧
      (last.attend 0 none).board.status? 0 = some (.rejected "host exited") ∧
      (last.attend 0 none).board.status? 1 = some (.answered (.success 2 .null)) := by
  intro c last queue
  have live : c.live? = some 0 := rfl
  have current : last.current = some 0 := rfl
  have count : last.board.calls.length = c.board.calls.length := rfl
  have ends : ending (last.port 0).events.ended queue = some "host exited" := rfl
  have waiting : (c.board.exchange 0).waiting = [(1, 0), (2, 1)] := rfl
  have rejected : lastStatus 1 (messages queue) "host exited" = .rejected "host exited" := rfl
  have answered : lastStatus 2 (messages queue) "host exited" = .answered (.success 2 .null) := rfl
  obtain ⟨-, -, stands, -⟩ := queued_events_come_before_end {} (.stored {}) twoWaiting interrupted
    live current count ends
  obtain ⟨first, -⟩ := stands 1 0 (by rw [waiting]; decide)
  obtain ⟨second, -⟩ := stands 2 1 (by rw [waiting]; decide)
  rw [rejected] at first
  rw [answered] at second
  exact ⟨live, current, count, ends, first, second⟩

end Native

end RpcLink
