import RpcLink.Proofs.Pipe.Orderly

/-!
Every part of a task's step keeps its client in order. While a task takes its step, the others are
where they were; so a part of the step starts from a client that is in order but for that task, and
what a server is told before it welcomed the client is told by the holder of the lock alone.
-/

namespace RpcLink.Pipe

open FairLock (Spares)
open Switchboard (Registers)

section

variable {welcomed lost : Set Nat} {first c c' : Client} {task x call : Nat} {r : Request}
  {p : Phase} {job : Job} {purpose : Purpose} {board : Switchboard} {method : String}
  {params : Json} {writing : Option (Except SystemError Unit)} {m : Moment}

/-- A client is in order after a part of a step. If a server was started on the way and could not be
greeted, it is lost. -/
def Tries (first : Client) (welcomed lost : Set Nat) (m : Moment) (c c' : Client) : Prop :=
  ∃ lost', lost ⊆ lost' ∧
    (c.channels.length < c'.channels.length →
      ∀ e, m.writing = some (.error e) → c.channels.length ∈ lost') ∧
    Orderly first welcomed lost' c'

theorem Orderly.tries (h : Orderly first welcomed lost c')
    (length : c'.channels.length = c.channels.length) : Tries first welcomed lost m c c' :=
  ⟨lost, .refl _, fun grows => absurd grows (length ▸ Nat.lt_irrefl _), h⟩

theorem Speaks.of_asksNothing (asks : p.asksNothing) : Speaks welcomed lost c p := by
  cases p with
  | writing purpose x r call => cases asks
  | greeting x call => cases asks
  | _ => trivial

theorem Orderly.besides (h : Orderly first welcomed lost c) (task : Nat) :
    Besides first welcomed lost task c where
  toOrdered := h.toOrdered
  holder t p _ := h.holder t p
  speaks t p _ := h.speaks t p

/-- Where nothing is asked and no task goes on, the client stays in order. -/
theorem Orderly.silent (h : Orderly first welcomed lost c) (silent : Silent c c')
    (tasks : ∀ t p, c'.phase? t = some p →
      p.asksNothing ∧ p.holdsLock = false ∨ c.phase? t = some p)
    (lock : c'.lock = c.lock) : Orderly first welcomed lost c' where
  toOrdered := h.toOrdered.silent silent
  holder t p found holds := by
    rcases tasks t p found with ⟨-, free⟩ | before
    · rw [free] at holds
      cases holds
    · rw [lock]
      exact h.holder t p before holds
  speaks t p found := by
    rcases tasks t p found with ⟨asks, -⟩ | before
    · exact .of_asksNothing asks
    · exact (h.speaks t p before).silent silent

theorem Orderly.sweep (h : Orderly first welcomed lost c) : Orderly first welcomed lost c.sweep :=
  h.silent c.silent_sweep
    (fun _ _ found => .inr ((Client.phase?_of_tasks_eq c.sweep_tasks _).symm.trans found))
    c.sweep_lock

namespace Besides

theorem setPhase (h : Besides first welcomed lost task c)
    (holds : p.holdsLock → c.lock.holder = some task) (speaks : Speaks welcomed lost c p) :
    Orderly first welcomed lost (c.setPhase task p) := by
  have silent := c.silent_setPhase task p
  have either : ∀ t q, (c.setPhase task p).phase? t = some q →
      t = task ∧ q = p ∨ t ≠ task ∧ c.phase? t = some q := by
    intro t q found
    rw [Client.setPhase_phase?] at found
    split at found
    · rename_i this
      obtain ⟨-, -, same⟩ := Option.map_eq_some_iff.mp found
      exact .inl ⟨this, same.symm⟩
    · rename_i other
      exact .inr ⟨other, found⟩
  refine ⟨h.toOrdered.silent silent, fun t q found => ?_, fun t q found => ?_⟩
  · rcases either t q found with ⟨rfl, rfl⟩ | ⟨other, before⟩
    · exact holds
    · exact h.holder t q other before
  · rcases either t q found with ⟨rfl, rfl⟩ | ⟨other, before⟩
    · exact speaks.silent silent
    · exact (h.speaks t q other before).silent silent

theorem silent (h : Besides first welcomed lost task c) (silent : Silent c c')
    (others : ∀ t, t ≠ task → c'.phase? t = c.phase? t) (lock : Spares task c.lock c'.lock) :
    Besides first welcomed lost task c' where
  toOrdered := h.toOrdered.silent silent
  holder t p other found holds :=
    lock t other (h.holder t p other (others t other ▸ found) holds)
  speaks t p other found := (h.speaks t p other (others t other ▸ found)).silent silent

theorem setBoard (h : Besides first welcomed lost task c)
    (keeps : Switchboard.Keeps c.board board) : Besides first welcomed lost task { c with board } :=
  h.silent (c.silent_setBoard keeps) (fun _ _ => rfl) (.refl task c.lock)

theorem setLock (h : Besides first welcomed lost task c) (lock : FairLock)
    (spares : Spares task c.lock lock) : Besides first welcomed lost task { c with lock } :=
  h.silent (c.silent_setLock lock) (fun _ _ => rfl) spares

theorem retreats (h : Besides first welcomed lost task c) (retreats : Retreats task c c') :
    Orderly first welcomed lost c' := by
  have after := h.silent retreats.silent retreats.others retreats.lock
  refine ⟨after.toOrdered, fun t p found => ?_, fun t p found => ?_⟩
  · by_cases same : t = task
    · subst same
      exact (retreats.own p found).2
    · exact after.holder t p same found
  · by_cases same : t = task
    · subst same
      exact .of_asksNothing (retreats.own p found).1
    · exact after.speaks t p same found

/-- While a task holds the lock, no other starts or stops a server. -/
theorem free (h : Besides first welcomed lost task c) (held : c.lock.holder = some task) {t : Nat}
    (other : t ≠ task) (found : c.phase? t = some p) : p.holdsLock = false := by
  cases holds : p.holdsLock with
  | false => rfl
  | true => exact absurd (Option.some.inj ((h.holder t p other found holds).symm.trans held)) other

/-! ### A greeting fails -/

/-- A server that did not welcome the client is lost. -/
theorem lose (h : Besides first welcomed lost task c) (held : c.lock.holder = some task)
    (inside : x < c.channels.length) (unheard : x ∉ welcomed)
    (closed : (c.board.exchange x).closed.isSome) :
    Besides first welcomed (insert x lost) task c where
  since := h.since
  aligned := h.aligned
  routed := h.routed
  welcomed_lt := h.welcomed_lt
  lost_lt y member := by
    rcases Set.mem_insert_iff.mp member with rfl | before
    · exact inside
    · exact h.lost_lt y before
  apart y welcome member := by
    rcases Set.mem_insert_iff.mp member with rfl | before
    · exact unheard welcome
    · exact h.apart y welcome before
  closed y member := by
    rcases Set.mem_insert_iff.mp member with rfl | before
    · exact closed
    · exact h.closed y before
  current := h.current
  unheard := h.unheard
  heard := h.heard
  holder := h.holder
  speaks t p other found :=
    (h.speaks t p other found).extends (h.free held other found) (.refl c)
      (Set.Subset.refl _)

theorem discard (h : Besides first welcomed lost task c) (held : c.lock.holder = some task)
    (inside : x < c.channels.length) (unheard : x ∉ welcomed) (job : Job) (e : Failure) :
    Orderly first welcomed (insert x lost) (c.discard task job x e) := by
  have aborted := h.setBoard (c.board.keeps_abort x e.message)
  have closed := c.board.abort_closed_isSome (h.aligned.symm ▸ inside) e.message
  have unused := aborted.lose held inside unheard closed
  have rest := Client.kill_awaitDiscarded_retreats
    (c := { c with board := (c.board.abort x e.message).2 }) job x held e
  exact unused.retreats rest

/-! ### Requests are written -/

/-- A request that comes after the greeting is written. -/
theorem write (h : Besides first welcomed lost task c) (later : purpose ≠ .greeting)
    (held : purpose ≠ .call → c.lock.holder = some task) (welcome : x ∈ welcomed)
    (follows : c.MayFollow x r call) :
    Orderly first welcomed lost (c.write task job purpose x r call writing) := by
  cases writing with
  | none =>
      refine h.setPhase (fun holds => held (bne_iff_ne.mp holds)) ?_
      cases purpose with
      | greeting => exact absurd rfl later
      | call => exact ⟨welcome, follows⟩
      | shutdown => exact ⟨welcome, follows⟩
  | some result =>
      cases result with
      | ok _ =>
          have written : Besides first welcomed lost task (c.onWritten x r) :=
            ⟨h.toOrdered.onWritten (.inl ⟨welcome, call, follows⟩), h.holder,
              fun t p other found => (h.speaks t p other found).onWritten welcome r⟩
          cases purpose with
          | greeting => exact absurd rfl later
          | call =>
              exact written.setPhase (p := .awaiting x call) (by simp [Phase.holdsLock]) trivial
          | shutdown =>
              exact written.setPhase (p := .stopping x call) (fun _ => held (by simp)) trivial
      | error e =>
          exact h.retreats (.after (c.silent_setBoard (c.board.keeps_forget x r.id)) rfl rfl
            (Client.giveUp_retreats job x _ held))

/-- A greeting is written. If that cannot be done, its server is lost. -/
theorem write_greeting (h : Besides first welcomed lost task c) (held : c.lock.holder = some task)
    (hails : Hails welcomed lost c x r call) (blank : c.writtenTo x = []) (job : Job)
    (writing : Option (Except SystemError Unit)) :
    ∃ lost', lost ⊆ lost' ∧ (∀ e, writing = some (.error e) → x ∈ lost') ∧
      Orderly first welcomed lost' (c.write task job .greeting x r call writing) := by
  cases writing with
  | none => exact ⟨lost, .refl _, by simp, h.setPhase (fun _ => held) ⟨hails, blank⟩⟩
  | some result =>
      cases result with
      | ok _ =>
          have written : Besides first welcomed lost task (c.onWritten x r) :=
            ⟨h.toOrdered.onWritten (.inr ⟨call, hails, blank⟩), h.holder, fun t p other found =>
              (h.speaks t p other found).extends (h.free held other found)
                (c.extends_onWritten x r) (.refl _)⟩
          have first : (c.onWritten x r).writtenTo x = [r] := by
            rw [Client.writtenTo_onWritten, if_pos ⟨rfl, hails.inside⟩, blank]
            rfl
          exact ⟨lost, .refl _, by simp, written.setPhase (p := .greeting x call) (fun _ => held)
            ⟨r, hails.onWritten x r, first⟩⟩
      | error e =>
          have forgotten := h.setBoard (c.board.keeps_forget x r.id)
          exact ⟨insert x lost, Set.subset_insert .., fun _ _ => Set.mem_insert ..,
            forgotten.discard held hails.inside hails.unheard job _⟩

/-! ### Calls are registered -/

/-- A call that comes after the greeting is registered and its request written. -/
theorem send (h : Besides first welcomed lost task c) (later : purpose ≠ .greeting)
    (held : purpose ≠ .call → c.lock.holder = some task) (welcome : x ∈ welcomed)
    (wanted : c.Wanted method params) :
    Orderly first welcomed lost (c.send task job purpose x method params writing) := by
  unfold Client.send
  rcases c.board.register_cases x method params with
    ⟨reason, -, refused⟩ | ⟨id, call, board, made, registers⟩
  · rw [refused]
    exact h.retreats (Client.giveUp_retreats job x _ held)
  · rw [made]
    have registered : Besides first welcomed lost task { c with board } :=
      ⟨h.toOrdered.register welcome registers, h.holder, fun t p other found =>
        (h.speaks t p other found).register welcome registers⟩
    exact registered.write later held welcome (h.toOrdered.mayFollow welcome registers wanted)

theorem useChannel (h : Besides first welcomed lost task c) (given : job ∈ c.tasks.map Task.job)
    (welcome : x ∈ welcomed) : Orderly first welcomed lost (c.useChannel task job x writing) := by
  unfold Client.useChannel
  split
  · exact h.setPhase (by simp [Phase.holdsLock]) trivial
  · rename_i ask asks
    exact h.send (by simp) (by simp) welcome (.inr ⟨job, given, asks⟩)

theorem release (h : Besides first welcomed lost task c) (held : c.lock.holder = some task) :
    Besides first welcomed lost task c.release :=
  h.setLock c.lock.release (.of_held held)

/-! ### Servers are started and stopped -/

theorem extends_welcome (c : Client) (x : Nat) (info : ServerInfo) :
    Extends c { c with
      connecting := false
      opened := true
      current := some x
      serverInfo := some info } :=
  ⟨rfl, fun _ given => given, fun _ _ numbered => numbered, fun _ => List.prefix_rfl,
    fun _ => List.prefix_rfl⟩

/-- A server that answers the greeting with what it says of itself welcomes the client. -/
theorem welcome (h : Besides first welcomed lost task c) (held : c.lock.holder = some task)
    (hails : Hails welcomed lost c x r call) (written : c.writtenTo x = [r]) (info : ServerInfo) :
    Besides first (insert x welcomed) lost task { c with
      connecting := false
      opened := true
      current := some x
      serverInfo := some info } where
  since := h.since.trans (extends_welcome c x info)
  aligned := h.aligned
  routed := h.routed
  welcomed_lt y member := by
    rcases Set.mem_insert_iff.mp member with rfl | before
    · exact hails.inside
    · exact h.welcomed_lt y before
  lost_lt := h.lost_lt
  apart y member := by
    rcases Set.mem_insert_iff.mp member with rfl | before
    · exact hails.kept
    · exact h.apart y before
  closed := h.closed
  current y uses := Set.mem_insert_iff.mpr (.inl (Option.some.inj uses).symm)
  unheard y inside outside := by
    obtain ⟨s, k, only, shape⟩ :=
      h.unheard y inside fun before => outside (Set.mem_insert_of_mem x before)
    exact ⟨s, k, ⟨only.calls, only.number, only.request⟩, shape⟩
  heard y member := by
    rcases Set.mem_insert_iff.mp member with rfl | before
    · exact ⟨call, [], r, [], hails.calls, hails.number, hails.request, written, by simp⟩
    · obtain ⟨k, others, s, later, calls, number, request, shape, follow⟩ := h.heard y before
      refine ⟨k, others, s, later, calls, number, request, shape, fun s' among => ?_⟩
      obtain ⟨j, follows⟩ := follow s' among
      exact ⟨j, follows.later, follows.number, follows.wanted⟩
  holder := h.holder
  speaks t p other found :=
    (h.speaks t p other found).extends (h.free held other found)
      (extends_welcome c x info) (Set.subset_insert ..)

theorem greeted_ok (h : Besides first welcomed lost task c) (held : c.lock.holder = some task)
    (hails : Hails welcomed lost c x r call) (written : c.writtenTo x = [r])
    (given : job ∈ c.tasks.map Task.job) {response : Response} {info : ServerInfo}
    (accepted : ServerInfo.ofResponse response = .ok info) :
    Orderly first (insert x welcomed) lost (c.greeted task job x (.ok response) writing) := by
  have read : ((Except.ok response).mapError greetingFailure).bind ServerInfo.ofResponse =
      .ok info := accepted
  unfold Client.greeted
  rw [read]
  exact ((h.welcome held hails written info).release held).useChannel given (Set.mem_insert ..)

theorem greeted_error (h : Besides first welcomed lost task c) (held : c.lock.holder = some task)
    (inside : x < c.channels.length) (unheard : x ∉ welcomed) {result : Except Failure Response}
    (refused : ∀ response info, result = .ok response → ServerInfo.ofResponse response ≠ .ok info) :
    Orderly first welcomed (insert x lost) (c.greeted task job x result writing) := by
  unfold Client.greeted
  split
  · exact h.discard held inside unheard job _
  · rename_i info accepted
    cases result with
    | error e => cases accepted
    | ok response => exact absurd accepted (refused response info rfl)

theorem stop (h : Besides first welcomed lost task c) (held : c.lock.holder = some task) :
    Orderly first welcomed lost (c.stop task job writing) := by
  unfold Client.stop
  split
  · exact h.retreats (.setPhase (c.silent_setLock _) rfl (.of_held held) rfl
      (by simp [Phase.holdsLock]))
  · rename_i x uses
    have taken := h.silent (c.silent_stopping x) (fun _ _ => rfl) (.refl task c.lock)
    dsimp only
    split
    · exact taken.send (by simp) (fun _ => held) (h.current x uses) (.inl ⟨rfl, rfl⟩)
    · exact taken.retreats (Client.closeDown_retreats x held)

theorem opening (h : Besides first welcomed lost task c) (held : c.lock.holder = some task)
    {ch : Channel} (blank : ch.written = [])
    (registers : Registers c.board.openExchange c.channels.length r call board)
    (request : r = c.hello r.id) : Besides first welcomed lost task (c.opening ch board) where
  toOrdered := h.toOrdered.opening blank registers request
  holder := h.holder
  speaks t p other found := (h.speaks t p other found).extends (h.free held other found)
    (extends_opening blank registers) (.refl _)

theorem launch (h : Besides first welcomed lost task c) (held : c.lock.holder = some task) :
    Tries first welcomed lost m c (c.launch task job m) := by
  have connecting : Besides first welcomed lost task { c with connecting := true } :=
    h.silent ⟨rfl, fun _ given => given, rfl, .refl _, .inl rfl⟩ (fun _ _ => rfl)
      (.refl task c.lock)
  unfold Client.launch
  dsimp only
  split
  · have failed := Client.fail_retreats (c := { c with connecting := true }) job held
    exact (connecting.retreats (failed _)).tries rfl
  · unfold Client.send
    rcases Switchboard.register_cases c.board.openExchange c.channels.length helloMethod
      c.config.client.hello with ⟨reason, closed, -⟩ | ⟨id, call, board, made, registers⟩
    · have beyond : c.board.exchange c.channels.length = { dropped := true } := by
        simp [Switchboard.exchange, h.aligned]
      rw [Switchboard.openExchange_closed, beyond] at closed
      cases closed
    · dsimp only
      rw [made]
      have blank : (Channel.opened (c.config.command c.settings) c.config.limit).written = [] := rfl
      have unwritten := Client.writtenTo_opening (c := { c with connecting := true }) blank board
        c.channels.length
      rw [if_neg (Nat.lt_irrefl _)] at unwritten
      obtain ⟨lost', wider, fails, order⟩ :=
        (connecting.opening held blank registers rfl).write_greeting held
          (connecting.hails_opening registers rfl) unwritten job m.writing
      exact ⟨lost', wider, fun _ => fails, order⟩

theorem withLock (h : Besides first welcomed lost task c) (held : c.lock.holder = some task)
    (given : job ∈ c.tasks.map Task.job) :
    Tries first welcomed lost m c (c.withLock task job m) := by
  unfold Client.withLock
  split
  · exact (h.stop held).tries (by simp)
  · split
    · rename_i x live
      have welcome := h.current x (Client.live?_eq_some_iff.mp live).1
      exact ((h.release held).useChannel given welcome).tries (by simp [Client.release])
    · exact h.launch held

theorem askLock (h : Besides first welcomed lost task c) (given : job ∈ c.tasks.map Task.job) :
    Tries first welcomed lost m c (c.askLock task job m) := by
  cases holder : c.lock.holder with
  | none =>
      rw [Client.askLock_of_free holder]
      have taken := h.setLock { c.lock with holder := some task } (.of_free holder)
      exact taken.withLock rfl given
  | some other =>
      rw [Client.askLock_of_held holder]
      have waits := h.setLock { c.lock with queue := c.lock.queue ++ [task] }
        fun _ _ holds => holds
      exact (waits.setPhase (p := .queued) (by simp [Phase.holdsLock]) trivial).tries rfl

theorem startOnChannel (h : Besides first welcomed lost task c)
    (given : job ∈ c.tasks.map Task.job) :
    Tries first welcomed lost m c (c.startOnChannel task job m) := by
  unfold Client.startOnChannel
  split
  · rename_i x live
    have welcome := h.current x (Client.live?_eq_some_iff.mp live).1
    exact (h.useChannel given welcome).tries (by simp)
  · exact h.askLock given

theorem begin (h : Besides first welcomed lost task c) (given : job ∈ c.tasks.map Task.job) :
    Tries first welcomed lost m c (c.begin task job m) := by
  unfold Client.begin
  split
  · exact h.askLock given
  · split
    · exact (h.setPhase (p := .done _) (by simp [Phase.holdsLock]) trivial).tries rfl
    · exact h.startOnChannel given
  · exact h.startOnChannel given

end Besides

end

end RpcLink.Pipe
