import RpcLink.Proofs.Native.Strides

/-!
Attempts to connect. All the calls that come together at an attempt that succeeds share its
connection for as long as it is open, and an attempt that is given up makes way for the next task in
line.
-/

namespace RpcLink.Native

section

variable {c c' : Client} {task link : Nat} {out : List (Nat × Json)}

/-- In a run the connector is not asked, and what is posted is posted over one connection. -/
structure Client.KeepsTo (c : Client) (link : Nat) (es : List Event) : Prop where
  dialled : (c.run es).dialled = c.dialled
  posts : ∀ {t l message}, .posted t l message ∈ c.traffic es → l = link

theorem Client.KeepsTo.cons {e : Event} {es : List Event} (rest : (c.happen e).KeepsTo link es)
    (dialled : (c.happen e).dialled = c.dialled)
    (posts : ∀ {t l message}, .posted t l message ∈ c.crossings e → l = link) :
    c.KeepsTo link (e :: es) where
  dialled := rest.dialled.trans dialled
  posts member := (List.mem_append.mp member).elim posts rest.posts

theorem Client.run_current (h : Linked c) (inside : link < c.links.length) {es : List Event}
    (current : (c.run es).current = some link) : c.current = some link := by
  induction es generalizing c with
  | nil => exact current
  | cons e es ih =>
      have turn := happen_turn h e
      exact turn.current_of inside
        (ih (h.happen e) (Nat.lt_of_lt_of_le inside turn.links_le) current)

/-- While a connection is the current one, all goes over it. -/
theorem Client.keepsTo_current (h : Linked c) (inside : link < c.links.length) {es : List Event}
    (current : (c.run es).current = some link) : c.KeepsTo link es := by
  induction es generalizing c with
  | nil => exact ⟨rfl, fun member => nomatch member⟩
  | cons e es ih =>
      have turn := happen_turn h e
      have linked := h.happen e
      have inside' := Nat.lt_of_lt_of_le inside turn.links_le
      have rest := ih linked inside' current
      have next := run_current linked inside' current
      have busy := h.not_idle_of_current (turn.current_of inside next)
      exact rest.cons (turn.dialled_of_not_idle busy) fun member =>
        Option.some.inj ((turn.posts member).symm.trans next)

/-! ### Attempts -/

/-- While a task asks for a connection, nobody else does, nothing is posted and there is none. -/
theorem Client.keepsTo_opening (h : Linked c) {host : String} {es : List Event} (l : Nat)
    (first : c.phase? task = some (.opening host))
    (last : (c.run es).phase? task = some (.opening host)) :
    c.KeepsTo l es ∧ (c.run es).links.length = c.links.length := by
  induction es generalizing c with
  | nil => exact ⟨⟨rfl, fun member => nomatch member⟩, rfl⟩
  | cons e es ih =>
      have turn := happen_turn h e
      have linked := h.happen e
      have whole : (c.run ([e] ++ es)).phase? task = some (.opening host) := last
      have next : (c.happen e).phase? task = some (.opening host) := phase?_between first whole
      obtain ⟨rest, length⟩ := ih linked next last
      have none := (linked.opening next).2
      have nothing : ∀ {link}, (c.happen e).current ≠ some link := by simp [none]
      refine ⟨rest.cons (turn.dialled_of_not_idle fun idle => idle.quiet ⟨task, host, first⟩)
        fun member => absurd (turn.posts member) nothing, ?_⟩
      exact length.trans (turn.links.elim And.left fun ⟨_, further⟩ => absurd further nothing)

theorem Client.traffic_append (c : Client) (es fs : List Event) :
    c.traffic (es ++ fs) = c.traffic es ++ (c.run es).traffic fs := by
  induction es generalizing c with
  | nil => rfl
  | cons e es ih =>
      rw [List.cons_append, traffic, traffic, ih, List.append_assoc]
      rfl

theorem Client.KeepsTo.append {es fs : List Event} (first : c.KeepsTo link es)
    (second : (c.run es).KeepsTo link fs) : c.KeepsTo link (es ++ fs) where
  dialled := by rw [run_append, second.dialled, first.dialled]
  posts member := by
    rw [traffic_append] at member
    exact (List.mem_append.mp member).elim first.posts second.posts

theorem Client.run_links_le (h : Linked c) (es : List Event) :
    c.links.length ≤ (c.run es).links.length := by
  induction es generalizing c with
  | nil => exact Nat.le_refl _
  | cons e es ih => exact Nat.le_trans (happen_turn h e).links_le (ih (h.happen e))

/-- From the moment at which there is a further connection, all goes over it while it is open. -/
theorem Client.keepsTo_connected (h : Linked c) {e : Event} {es : List Event}
    (further : c.links.length < (c.happen e).links.length)
    (opened : ((c.run (e :: es)).board.exchange c.links.length).isOpen = true) :
    (c.happen e).KeepsTo c.links.length es ∧
      ∀ {t l message}, .posted t l message ∈ c.crossings e → l = c.links.length := by
  have linked := h.happen e
  have inside := Nat.lt_of_lt_of_le further (run_links_le linked es)
  have current := (h.run (e :: es)).current_of_isOpen inside opened
  refine ⟨keepsTo_current linked further current, fun member => ?_⟩
  have next := run_current linked further current
  exact Option.some.inj (((happen_turn h e).posts member).symm.trans next)

/-- The call that a task is to make. -/
def Client.ask? (c : Client) (task : Nat) : Option Relay.Ask :=
  (c.tasks.map Task.job)[task]?.bind Job.ask?

/-- Who asks for a connection is to make a call. -/
def Asked (c : Client) : Prop :=
  ∀ task host, c.phase? task = some (.opening host) → ∃ ask, c.ask? task = some ask

theorem ask?_of_found {t : Task} (found : c.tasks[task]? = some t) : c.ask? task = t.job.ask? := by
  simp [Client.ask?, found]

theorem Move.asks (move : Move task c out c') {host : String}
    (opening : c'.phase? task = some (.opening host)) : ∃ ask, c.ask? task = some ask := by
  cases move with
  | refuse found unread => exact absurd rfl (opening_of_setPhase opening trivial).1
  | queue found held => exact absurd rfl (opening_of_setPhase opening trivial).1
  | send found asks live sent => exact absurd rfl (sent.opening opening).1
  | sendLocked found asks grants live sent => exact absurd rfl (sent.opening opening).1
  | dial found asks grants dead => exact ⟨_, (ask?_of_found found).trans asks⟩
  | fail found asks => exact ⟨_, (ask?_of_found found).trans asks⟩
  | connect found asks sent => exact ⟨_, (ask?_of_found found).trans asks⟩
  | disconnect found asks grants => exact absurd rfl (opening_of_setPhase opening trivial).1
  | answer found told => exact absurd rfl (opening_of_setPhase opening trivial).1
  | expire found waits limited limit => exact absurd rfl (opening_of_setPhase opening trivial).1

namespace Asked

theorem move (h : Asked c) (move : Move task c out c') : Asked c' := by
  intro t host opening
  have same : c'.ask? t = c.ask? t := by rw [Client.ask?, Client.ask?, move.jobs]
  obtain ⟨old, new, goes⟩ := move.goes
  rw [same]
  by_cases this : t = task
  · subst this
    exact move.asks opening
  · rw [goes.elsewhere this] at opening
    exact h t host opening

theorem quietly (h : Asked c) (quietly : Quietly c c') : Asked c' := by
  intro t host opening
  cases quietly with
  | spawned job =>
      have before := ((c.spawn_phase? job).mp opening).resolve_right (by simp)
      obtain ⟨ask, asks⟩ := h t host before
      obtain ⟨toDo, there, asks⟩ := Option.bind_eq_some_iff.mp asks
      obtain ⟨inside, -⟩ := List.getElem?_eq_some_iff.mp there
      refine ⟨ask, ?_⟩
      rw [Client.ask?, Client.spawn, List.map_append, List.getElem?_append_left inside, there]
      exact asks
  | @cancelled task k found waits =>
      have before := (opening_of_setPhase opening trivial).2
      rw [Client.phase?_of_tasks_eq (c.letGo_tasks task)] at before
      rw [Client.ask?, Client.setPhase_jobs, Client.letGo_tasks]
      exact h t host before
  | quiet quiet =>
      rw [Client.phase?_of_tasks_eq quiet.tasks] at opening
      rw [Client.ask?, quiet.tasks]
      exact h t host opening

theorem run (h : Asked c) (es : List Event) : Asked (c.run es) := by
  induction es generalizing c with
  | nil => exact h
  | cons e es ih => exact ih (Client.happen_keeps (fun holds move => holds.move move) h e h.quietly)

end Asked

theorem asked_fresh (config : Config) (settings : Settings) :
    Asked (Client.fresh config settings) := by
  intro task host opening
  simp [Client.phase?, Client.fresh] at opening

/-! ### Ends of attempts -/

theorem exists_of_phase? {phase : Phase} (found : c.phase? task = some phase) :
    ∃ job, c.tasks[task]? = some { job, phase } := by
  obtain ⟨⟨job, phase'⟩, there, rfl⟩ := Option.map_eq_some_iff.mp found
  exact ⟨job, there⟩

/-- An attempt for which the connector has a port makes a further connection. -/
theorem Client.step_connects (h : Asked c) {host : String} {dial : Dial} {fresh : FreshPort}
    (opening : c.phase? task = some (.opening host)) (port : dial host = some (.ok fresh))
    (timeUp : Bool) : c.links.length < (c.step task dial timeUp).links.length := by
  obtain ⟨ask, asks⟩ := h task host opening
  obtain ⟨job, found⟩ := exists_of_phase? opening
  rw [ask?_of_found found] at asks
  have longer : c.links.length <
      (c.proceed task { job, phase := .opening host } dial).links.length := by
    simp only [proceed, asks, port, concludeAttempt, release]
    obtain ⟨out, sent⟩ := send_sent _ task c.links.length job ask
    rw [sent.links_length]
    simp
  unfold step
  rw [found]
  dsimp only
  split
  · split
    · rw [setPhase_links, letGo_links]
      exact longer
    · exact longer
  · exact longer

/-- A task is done with asking for a connection, and the next one in line gets the lock. -/
structure GivesWay (c : Client) (task : Nat) (phase : Phase) (c' : Client) : Prop where
  ended : c'.phase? task = some phase
  nobody : ¬ c'.IsOpening
  connecting : c'.connecting = false
  holder : c'.lock.holder = c.lock.queue.head?
  queue : c'.lock.queue = c.lock.queue.tail

theorem givesWay_letGo (h : Linked c) {t : Task} {host : String} (found : c.tasks[task]? = some t)
    (opening : t.phase = .opening host) {phase : Phase} (last : phase.rank = 4) :
    GivesWay c task phase ((c.letGo task).setPhase task phase) := by
  have waits : t.isOver = false := by simp [Task.isOver, opening]
  have goes : Goes c task t.phase phase ((c.letGo task).setPhase task phase) :=
    Client.letGo_goes found waits last
  have first := goes.before
  rw [opening] at first
  have lock : c.lock.abandon task =
      { holder := c.lock.queue.head?, queue := c.lock.queue.tail } := by
    rw [← FairLock.release_eq_abandon (h.opening first).1, FairLock.release_eq]
  have eq : c.letGo task = { c with connecting := false, lock := c.lock.abandon task } := by
    unfold Client.letGo
    rw [found, Option.map_some, opening]
  constructor
  case ended => exact goes.there
  case nobody => exact goes.not_isOpening h opening (isSettled_of_rank (by omega))
  all_goals rw [eq]
  case connecting => rfl
  case holder => exact congrArg FairLock.holder lock
  case queue => exact congrArg FairLock.queue lock

theorem Client.givesWay_cancel (h : Linked c) {t : Task} {host : String}
    (found : c.tasks[task]? = some t) (opening : t.phase = .opening host) :
    GivesWay c task .cancelled (c.cancel task) := by
  have left : GivesWay c task .cancelled ((c.letGo task).setPhase task .cancelled) :=
    givesWay_letGo h found opening rfl
  unfold cancel isOver
  simpa [found, Task.isOver, opening] using left

/-- The connector has not answered when the time of the task is up. -/
theorem Client.givesWay_timeUp (h : Linked c) {t : Task} {host : String} {dial : Dial} {ns : Nat}
    (found : c.tasks[task]? = some t) (opening : t.phase = .opening host)
    (unanswered : dial host = none) (limited : t.job.isLimited = true)
    (limit : c.config.timeout = some ns) :
    GivesWay c task (.done (.response (.error (.timeout ns)))) (c.step task dial true) := by
  have stays : c.proceed task t dial = c := by
    unfold proceed
    rw [opening]
    dsimp only
    cases t.job.ask? with
    | none => rfl
    | some ask => simp only [unanswered, concludeAttempt]
  have left : GivesWay c task (.done (.response (.error (.timeout ns))))
      ((c.letGo task).setPhase task (.done (.response (.error (.timeout ns))))) :=
    givesWay_letGo h found opening rfl
  unfold step isOver
  simpa [found, stays, limit, limited, Task.isOver, opening] using left

/-! ### Shared attempts -/

/-- Tasks that need a connection share one attempt. At most one task asks the connector, and nobody
begins to ask while one does or while a connection is open. When an attempt succeeds, then from its
beginning on nobody asks again and everything is posted over its connection, as long as that is
open. An attempt that is dropped or whose time is up makes way for the next task in line. -/
theorem attempts_are_shared (config : Config) (settings : Settings) (es : List Event) :
    let c := (Client.fresh config settings).run es
    (∀ t t' host host', c.phase? t = some (.opening host) → c.phase? t' = some (.opening host') →
      t = t') ∧
    (c.connecting = true ↔ c.IsOpening) ∧
    (∀ t, t ∈ c.lock.line ↔ c.InLine t) ∧
    (∀ t host, c.phase? t = some (.opening host) → c.lock.holder = some t) ∧
    (∀ e, (c.happen e).dialled = c.dialled ∨
      (∃ host, (c.happen e).dialled = c.dialled ++ [host]) ∧ ¬ c.IsOpening ∧
        ∀ link, link < c.links.length → (c.board.exchange link).isOpen = false) ∧
    (∀ task host during dial fresh timeUp after,
      let link := c.links.length
      let answered := (c.run during).step task dial timeUp
      c.phase? task = some (.opening host) →
      (c.run during).phase? task = some (.opening host) →
      dial host = some (.ok fresh) →
      link < answered.links.length ∧
        (((answered.run after).board.exchange link).isOpen = true →
          c.KeepsTo link (during ++ .step task dial timeUp :: after))) ∧
    -- The attempt may also succeed in the step in which it begins.
    (∀ e after,
      let link := c.links.length
      link < (c.happen e).links.length →
      ((c.run (e :: after)).board.exchange link).isOpen = true →
      (c.happen e).KeepsTo link after ∧
        ∀ t l message, .posted t l message ∈ c.crossings e → l = link) ∧
    (∀ task t host, c.tasks[task]? = some t → t.phase = .opening host →
      GivesWay c task .cancelled (c.cancel task) ∧
      ∀ dial ns, dial host = none → t.job.isLimited = true → c.config.timeout = some ns →
        GivesWay c task (.done (.response (.error (.timeout ns)))) (c.step task dial true)) := by
  intro c
  have linked : Linked c := (linked_fresh config settings).run es
  have lined : Lined c := (lined_fresh config settings).run (linked_fresh config settings) es
  have asked : Asked c := (asked_fresh config settings).run es
  refine ⟨fun t t' host host' asks asks' => linked.eq_of_opening asks' asks, lined.connecting_iff,
    lined.fits.mem_iff, fun t host asks => (linked.opening asks).1, fun e => ?_, ?_,
    fun e after further opened => ?_, fun task t host found opening => ⟨?_, ?_⟩⟩
  · refine (Client.happen_turn linked e).dials.imp_right fun ⟨one, idle⟩ => ⟨one, idle.quiet, ?_⟩
    exact fun link => linked.closed_of_idle idle
  · intro task host during dial fresh timeUp after link answered first last port
    obtain ⟨before, count⟩ := Client.keepsTo_opening linked link first last
    have further : (c.run during).links.length <
        ((c.run during).happen (.step task dial timeUp)).links.length :=
      Client.step_connects (asked.run during) last port timeUp
    refine ⟨Nat.lt_of_le_of_lt (Nat.le_of_eq count.symm) further, fun opened => before.append ?_⟩
    have still : (((c.run during).run (.step task dial timeUp :: after)).board.exchange
        (c.run during).links.length).isOpen = true := by
      rw [count]
      exact opened
    obtain ⟨later, now⟩ := Client.keepsTo_connected (linked.run during) further still
    rw [count] at later now
    refine later.cons ?_ now
    exact (Client.happen_turn (linked.run during) _).dialled_of_not_idle fun idle =>
      idle.quiet ⟨task, host, last⟩
  · obtain ⟨later, now⟩ := Client.keepsTo_connected linked further opened
    exact ⟨later, fun t l message => now⟩
  · exact Client.givesWay_cancel linked found opening
  · exact fun dial ns => Client.givesWay_timeUp linked found opening

end

/-- Two calls come together, and the first of them asks for a connection. -/
def crowding : List Event :=
  [.spawn (.call "status" .null false), .spawn (.call "status" .null false),
    .step 0 (fun _ => none) false]

/-- The other call waits in line until the first one has a connection. -/
def sharing : List Event :=
  let answer : Dial := fun _ => some (.ok .untouched)
  [.step 1 (fun _ => none) false] ++ .step 0 answer false :: [.step 1 answer false]

/-- Both calls are posted over the connection for which the first one asked. -/
theorem two_calls_share_one_connection :
    ((Client.fresh {} (.stored {})).run crowding).IsOpening ∧
      ((Client.fresh {} (.stored {})).run crowding).KeepsTo 0 sharing ∧
      (((Client.fresh {} (.stored {})).run crowding).traffic sharing).length = 2 := by
  have opening : ((Client.fresh {} (.stored {})).run crowding).phase? 0 =
      some (.opening (Config.hostName {} (.stored {}))) := rfl
  have opened : ((((Client.fresh {} (.stored {})).run crowding).run sharing).board.exchange
      0).isOpen = true := rfl
  have two : (((Client.fresh {} (.stored {})).run crowding).traffic sharing).length = 2 := rfl
  obtain ⟨-, -, -, -, -, shares, -⟩ := attempts_are_shared {} (.stored {}) crowding
  obtain ⟨-, keeps⟩ := shares 0 _ [.step 1 (fun _ => none) false]
    (fun _ => some (.ok .untouched)) .untouched false _ opening rfl rfl
  exact ⟨⟨0, _, opening⟩, keeps opened, two⟩

end RpcLink.Native
