import RpcLink.Proofs.Exchange.Closed
import RpcLink.Proofs.Native.Rejections

/-!
Giving up the connection. A task that is to disconnect waits for the lock like one that connects.
When it gets its turn the connection that there is by then ends, with every call that waits on it,
and if there is none, nothing is seen of it. Whoever still waits for the lock finds no connection
and makes one of its own.
-/

namespace RpcLink.Native

variable {c c' : Client} {task link : Nat} {phase : Phase}

/-! ### The step -/

theorem Client.withLock_disconnect (c : Client) (task : Nat) (lock : FairLock) (dial : Dial) :
    { c with lock }.withLock task .disconnect dial =
      { c.giveUp with lock := lock.release }.setPhase task (.done .disconnected) := by
  obtain ⟨config, settings, board, links, current⟩ := c
  cases current <;> rfl

/-- A task comes to the end of a disconnect in the step in which it has the lock. -/
theorem Client.step_disconnect (found : c.tasks[task]? = some { job := .disconnect, phase })
    (waits : Task.isOver { job := .disconnect, phase } = false) {dial : Dial} {timeUp : Bool}
    (ended : (c.step task dial timeUp).phase? task = some (.done .disconnected)) :
    ∃ lock, Grants c task phase lock ∧ c.step task dial timeUp =
      { c.giveUp with lock := lock.release }.setPhase task (.done .disconnected) := by
  have stepped : c.step task dial timeUp = c.proceed task { job := .disconnect, phase } dial := by
    unfold step
    rw [found]
    dsimp only
    split
    · simp [Job.isLimited]
    · rfl
  rw [stepped] at ended ⊢
  cases phase with
  | fresh =>
      cases held : c.lock.holder with
      | none =>
          refine ⟨_, .free held, ?_⟩
          simp only [proceed, start, askLock, FairLock.acquire, held]
          exact c.withLock_disconnect task _ dial
      | some other =>
          simp only [proceed, start, askLock, FairLock.acquire, held] at ended
          cases ended_of_setPhase ended
  | queued =>
      by_cases held : c.lock.holder = some task
      · refine ⟨_, .turn held, ?_⟩
        simp only [proceed, FairLock.isHeldBy, held, beq_self_eq_true, if_true]
        exact c.withLock_disconnect task c.lock dial
      · simp only [proceed, FairLock.isHeldBy, beq_iff_eq, held, if_false,
          phase?_of_found found] at ended
        cases ended
  | opening host =>
      simp only [proceed, Job.ask?, phase?_of_found found] at ended
      cases ended
  | awaiting call =>
      simp only [proceed] at ended
      split at ended
      · cases ended_of_setPhase ended
      · rw [phase?_of_found found] at ended
        cases ended
  | done outcome => cases waits
  | cancelled => cases waits

theorem Client.happen_disconnect (found : c.tasks[task]? = some { job := .disconnect, phase })
    (waits : Task.isOver { job := .disconnect, phase } = false) {e : Event}
    (ended : (c.happen e).phase? task = some (.done .disconnected)) :
    ∃ lock, Grants c task phase lock ∧ c.happen e =
      { c.giveUp with lock := lock.release }.setPhase task (.done .disconnected) := by
  obtain ⟨dial, timeUp, rfl⟩ := eq_step_of_done found waits ended
  exact step_disconnect found waits ended

/-! ### A connection is given up -/

/-- A connection has come to its end by being given up: the calls that waited on it are rejected, no
other call is touched, and that is reported once, with their number. -/
structure GivenUp (b : Switchboard) (link : Nat) (b' : Switchboard) : Prop where
  rejected : ∀ {id call}, (id, call) ∈ (b.exchange link).waiting →
    b'.status? call = some (.rejected disconnectReason)
  spared : ∀ {call}, (∀ id, (id, call) ∉ (b.exchange link).waiting) →
    b'.calls[call]? = b.calls[call]?
  distinct : ((b.exchange link).waiting.map Prod.snd).Nodup
  reported : b'.log = b.log ++ [.closed disconnectReason (b.exchange link).waiting.length]
  closed : (b'.exchange link).closed = some disconnectReason

theorem givenUp_abort {b : Switchboard} (placed : b.Placed) (inside : link < b.exchanges.length)
    (opened : (b.exchange link).closed = none) :
    GivenUp b link (b.abort link disconnectReason).2 where
  rejected waits := (Switchboard.abort_of_waits placed waits disconnectReason).2.statuses _ _ waits
  spared := by
    intro call idle
    have apart : call ∉ (b.exchange link).waiting.map Prod.snd := by
      intro member
      obtain ⟨⟨id, _⟩, waits, rfl⟩ := List.mem_map.mp member
      exact idle id waits
    rw [Switchboard.abort_of_open opened, Switchboard.observe_calls,
      Switchboard.resolveAll_getElem?, Switchboard.setExchange_calls]
    simp [apart]
  distinct := placed.calls_distinct link
  reported := by
    rw [Switchboard.abort_of_open opened, Switchboard.observe, Switchboard.resolveAll_log]
    rfl
  closed := by
    rw [Switchboard.abort_of_open opened, Switchboard.observe_exchange,
      Switchboard.resolveAll_exchange, Switchboard.exchange_setExchange, if_pos ⟨rfl, inside⟩]

/-! ### Without calls -/

/-- A task that makes a call and has no connection yet goes on. -/
def Client.Calls (c : Client) (e : Event) : Prop :=
  ∃ task dial timeUp t ask, e = .step task dial timeUp ∧ c.tasks[task]? = some t ∧
    t.job.ask? = some ask ∧ t.phase.rank < 3

/-- No call is made in a run. -/
def Client.Callless (c : Client) (es : List Event) : Prop :=
  ∀ before e after, es = before ++ e :: after → ¬ (c.run before).Calls e

/-- A task that makes no call opens no connection. -/
theorem Move.links_of_ask?_none {out : List (Nat × Json)} (move : Move task c out c') {t : Task}
    (before : c.tasks[task]? = some t) (silent : t.job.ask? = none) :
    c'.links.length = c.links.length := by
  have unasked : ∀ {job phase ask}, c.tasks[task]? = some { job, phase } →
      job.ask? = some ask → False := by
    intro job phase ask found asks
    cases before.symm.trans found
    cases silent.symm.trans asks
  cases move with
  | refuse found unread => rfl
  | queue found held => rfl
  | send found asks live sent => exact (unasked found asks).elim
  | sendLocked found asks grants live sent => exact (unasked found asks).elim
  | dial found asks grants dead => rfl
  | fail found asks => rfl
  | connect found asks sent => exact (unasked found asks).elim
  | disconnect found asks grants => exact congrArg List.length c.giveUp_links
  | answer found told => rfl
  | expire found waits limited limit => exact congrArg List.length (c.letGo_links task)

namespace Client

theorem step_links_of_ask?_none {t : Task} (before : c.tasks[task]? = some t)
    (silent : t.job.ask? = none) (dial : Dial) (timeUp : Bool) :
    (c.step task dial timeUp).links.length = c.links.length := by
  have kept : (c.step task dial timeUp).tasks.map Task.job = c.tasks.map Task.job ∧
      (c.step task dial timeUp).links.length = c.links.length := by
    refine step_keeps (P := fun a => a.tasks.map Task.job = c.tasks.map Task.job ∧
      a.links.length = c.links.length) ?_ ⟨rfl, rfl⟩ dial timeUp
    rintro a out b ⟨jobs, length⟩ move
    have entry : a.tasks[task]?.map Task.job = some t.job := by
      rw [← List.getElem?_map, jobs, List.getElem?_map, before]
      rfl
    obtain ⟨u, there, same⟩ := Option.map_eq_some_iff.mp entry
    exact ⟨move.jobs.trans jobs, (move.links_of_ask?_none there (same ▸ silent)).trans length⟩
  exact kept.2

/-- What is no call opens no connection. -/
theorem happen_links_of_callless (linked : Linked c) {e : Event} (callless : ¬ c.Calls e) :
    (c.happen e).links.length = c.links.length := by
  rcases c.happen_cases e with ⟨task, dial, timeUp, rfl⟩ | quietly
  · show (c.step task dial timeUp).links.length = _
    cases found : c.tasks[task]? with
    | none => simp [step, found]
    | some t =>
        by_cases late : 3 ≤ t.phase.rank
        · exact ((step_stride linked task dial timeUp).late
            ⟨t.phase, phase?_of_found found, late⟩).1
        · cases asks : t.job.ask? with
          | none => exact step_links_of_ask?_none found asks dial timeUp
          | some ask =>
              exact absurd ⟨task, dial, timeUp, t, ask, rfl, found, asks, by omega⟩ callless
  · generalize c.happen e = b at quietly
    cases quietly with
    | spawned job => rfl
    | @cancelled other t found waits => exact congrArg List.length (c.letGo_links other)
    | quiet quiet => exact quiet.links_length

/-- Without calls there is no connection if there was none. -/
theorem run_current_of_callless (linked : Linked c) (none : c.current = none) {es : List Event}
    (callless : c.Callless es) : (c.run es).current = .none := by
  induction es generalizing c with
  | nil => exact none
  | cons e es ih =>
      have length := happen_links_of_callless linked (callless [] e es rfl)
      refine ih (linked.happen e) ?_ fun before e' after split => ?_
      · rcases (happen_turn linked e).links with ⟨-, same | lost⟩ | ⟨more, -⟩
        · exact same.trans none
        · exact lost
        · omega
      · exact callless (e :: before) e' after (by rw [split]; rfl)

end Client

/-- The current connection is one that calls use. -/
theorem Linked.current_of_dead (linked : Linked c) (dead : c.live? = none) : c.current = none := by
  refine Option.eq_none_iff_forall_ne_some.mpr fun link current => ?_
  have opened := (linked.connections.current_open current).2
  cases dead.symm.trans (Client.live?_eq_some_iff.mpr ⟨current, opened⟩)

/-! ### Later -/

/-- The calls that waited on a connection are rejected because the client gave it up, which is what
whoever awaits them is told, and what happens on its port is at most reported. -/
structure Rests (b : Switchboard) (link : Nat) (c : Client) : Prop where
  rejected : ∀ {id call}, (id, call) ∈ (b.exchange link).waiting →
    c.board.status? call = some (.rejected disconnectReason)
  told : ∀ {id call k}, (id, call) ∈ (b.exchange link).waiting → c.board.calls[call]? = some k →
    k.settled = false → (c.board.poll call).1 = .done (.error (.channelClosed disconnectReason))
  port : ∀ {e : Event}, e.port? = some link → ∃ reports : List Observation,
    (c.happen e).board = { c.board with log := c.board.log ++ reports } ∧
      ∀ o ∈ reports, o.isClosing = false

/-- What happens on the port of an earlier connection is reported, but no end of a connection is. -/
theorem Client.Past.happen_board (past : c.Past link) (linked : Linked c) {e : Event}
    (there : e.port? = some link) : ∃ reports : List Observation,
      (c.happen e).board = { c.board with log := c.board.log ++ reports } ∧
        ∀ o ∈ reports, o.isClosing = false := by
  have other : c.current ≠ some link := fun current => Nat.lt_irrefl _ (past.current link current)
  have overhears := happen_of_stale linked there other
  refine ⟨_, congrArg Client.board overhears.eq, fun o member => ?_⟩
  obtain ⟨x, -, reported⟩ := List.mem_filterMap.mp member
  rcases report_of_crossing reported with ⟨id, rfl⟩ | ⟨frame, error, rfl⟩ <;> rfl

/-- What was given up stays so, whatever happens later. -/
theorem GivenUp.rests {b : Switchboard} (givenUp : GivenUp b link c.board) (linked : Linked c)
    (placed : c.board.Placed) (past : c.Past link) (later : List Event) :
    Rests b link (c.run later) := by
  have rejected : ∀ {id call}, (id, call) ∈ (b.exchange link).waiting →
      (c.run later).board.status? call = some (.rejected disconnectReason) := fun waits =>
    (c.run_follows later placed).status?_eq (givenUp.rejected waits) nofun
  refine ⟨rejected, fun {id call k} waits found awaited => ?_, ?_⟩
  · exact poll_of_status found awaited (rejected waits) nofun id
  · exact (Client.run_past linked past later).1.happen_board (linked.run later)

/-- Nothing is seen of what happened but the tasks and their line for the lock. -/
structure Unseen (c c' : Client) : Prop where
  eq : c' = { c with lock := c'.lock, tasks := c'.tasks }
  board : c'.board = c.board
  state : c'.state = c.state

/-- A disconnect without a connection is not seen. -/
theorem Client.unseen_disconnect (none : c.current = none)
    (found : c.tasks[task]? = some { job := .disconnect, phase })
    (waits : Task.isOver { job := .disconnect, phase } = false) {e : Event}
    (ended : (c.happen e).phase? task = some (.done .disconnected)) : Unseen c (c.happen e) := by
  obtain ⟨lock, -, shape⟩ := happen_disconnect found waits ended
  rw [giveUp_of_none none] at shape
  rw [shape]
  exact ⟨rfl, rfl, rfl⟩

/-- In the step in which a disconnect comes to its end, the client gives up its connection. Exactly
the calls that waited on it are rejected, which is reported once with their number, and whatever
happens later, on its port above all, they stay so. If there was no connection, nothing is seen of
it, and nothing is seen of a second disconnect either if no call was made since. No other task has
gone on, and whatever any of them posts later goes over a connection that was opened later. -/
theorem disconnect_rejects_waiting_calls (config : Config) (settings : Settings)
    (es : List Event) (e : Event)
    (before : ((Client.fresh config settings).run es).tasks[task]? =
      some { job := .disconnect, phase })
    (waits : Task.isOver { job := .disconnect, phase } = false)
    (ended : ((Client.fresh config settings).run (es ++ [e])).phase? task =
      some (.done .disconnected)) :
    let c := (Client.fresh config settings).run es
    let c' := (Client.fresh config settings).run (es ++ [e])
    (c'.current = none ∧ ∀ link, link < c'.links.length →
      (c'.board.exchange link).isOpen = false) ∧
    (∀ link, c.live? = some link → GivenUp c.board link c'.board ∧
      ∀ later, Rests c.board link (c'.run later)) ∧
    (c.live? = none → Unseen c c') ∧
    (∀ between again task₂ phase₂, c'.Callless between →
      let d := c'.run between
      d.tasks[task₂]? = some { job := .disconnect, phase := phase₂ } →
      Task.isOver { job := .disconnect, phase := phase₂ } = false →
      (d.happen again).phase? task₂ = some (.done .disconnected) → Unseen d (d.happen again)) ∧
    (∀ t, t ≠ task → c'.phase? t = c.phase? t) ∧
    ∀ later t link message, .posted t link message ∈ c'.traffic later → c.links.length ≤ link := by
  intro c c'
  have happens : c' = c.happen e := Client.run_append (Client.fresh config settings) es [e]
  have linked : Linked c := (linked_fresh config settings).run es
  have placed : c.board.Placed :=
    ((Client.fresh config settings).run_follows es Switchboard.placed_empty).placed
  have linked' : Linked c' := (linked_fresh config settings).run (es ++ [e])
  have placed' : c'.board.Placed :=
    ((Client.fresh config settings).run_follows (es ++ [e]) Switchboard.placed_empty).placed
  have ended : (c.happen e).phase? task = some (.done .disconnected) := happens ▸ ended
  obtain ⟨lock, -, shape⟩ := Client.happen_disconnect before waits ended
  rw [← happens] at shape
  have none : c'.current = none := by
    rw [shape]
    exact c.giveUp_current
  have length : c'.links.length = c.links.length := by
    rw [shape]
    exact congrArg List.length c.giveUp_links
  have past : ∀ {link}, link < c.links.length → c'.Past link := fun inside =>
    ⟨Nat.lt_of_lt_of_eq inside length.symm, fun l current => by cases none.symm.trans current⟩
  refine ⟨⟨none, fun link inside => ?_⟩, fun link live => ?_, fun dead => ?_,
    fun between again task₂ phase₂ callless found waits ended => ?_, fun t other => ?_,
    fun later t link message posted => ?_⟩
  · cases opened : (c'.board.exchange link).isOpen with
    | false => rfl
    | true => cases none.symm.trans (linked'.current_of_isOpen inside opened)
  · obtain ⟨current, opened⟩ := Client.live?_eq_some_iff.mp live
    have inside := (linked.connections.current_open current).1
    have board : c'.board = (c.board.abort link disconnectReason).2 := by
      rw [shape]
      exact congrArg Client.board (Client.giveUp_of_some current)
    have givenUp := givenUp_abort placed (linked.connections.aligned ▸ inside) opened
    rw [← board] at givenUp
    exact ⟨givenUp, givenUp.rests linked' placed' (past inside)⟩
  · rw [happens]
    exact Client.unseen_disconnect (linked.current_of_dead dead) before waits ended
  · exact Client.unseen_disconnect (Client.run_current_of_callless linked' none callless) found
      waits ended
  · rw [shape, Client.setPhase_phase?, if_neg other]
    exact Client.phase?_of_tasks_eq c.giveUp_tasks t
  · rcases Nat.eq_zero_or_pos c.links.length with zero | positive
    · omega
    · have last : c.links.length - 1 < c.links.length := by omega
      have later := (Client.run_past linked' (past last) later).2 posted
      omega

/-- A call opens a connection, while a disconnect and then another call get in line behind it. -/
def contested : List Event :=
  let dial : Dial := fun _ => some (.ok .untouched)
  [.spawn (.call "status" .null false), .step 0 (fun _ => none) false,
    .spawn .disconnect, .step 1 dial false, .spawn (.call "status" .null false),
    .step 2 dial false, .step 0 dial false]

/-- The call that was posted is rejected, and the one in line goes over another connection. -/
theorem contested_disconnect_rejects_one_call :
    let e : Event := .step 1 (fun _ => none) false
    let c := (Client.fresh {} (.stored {})).run contested
    let c' := (Client.fresh {} (.stored {})).run (contested ++ [e])
    c.tasks[1]? = some { job := .disconnect, phase := .queued } ∧
      c'.phase? 1 = some (.done .disconnected) ∧ c.live? = some 0 ∧ c'.current = none ∧
      c'.board.status? 0 = some (.rejected "client disconnected") ∧
      c'.board.log = c.board.log ++ [.closed "client disconnected" 1] ∧
      c'.phase? 2 = some .queued ∧
      ∀ later t link message, .posted t link message ∈ c'.traffic later → 1 ≤ link := by
  intro e c c'
  have before : c.tasks[1]? = some { job := .disconnect, phase := .queued } := rfl
  have ended : c'.phase? 1 = some (.done .disconnected) := rfl
  have live : c.live? = some 0 := rfl
  have waiting : (c.board.exchange 0).waiting = [(1, 0)] := rfl
  obtain ⟨⟨none, -⟩, gives, -, -, others, later⟩ :=
    disconnect_rejects_waiting_calls {} (.stored {}) contested e before rfl ended
  obtain ⟨givenUp, -⟩ := gives 0 live
  have reported := givenUp.reported
  rw [waiting] at reported
  exact ⟨before, ended, live, none,
    givenUp.rejected (by rw [waiting]; exact List.mem_singleton_self _), reported,
    others 2 (by decide), later⟩

end RpcLink.Native
