import RpcLink.Proofs.Exchange.Closing
import RpcLink.Proofs.Native.Moves

/-!
The connections of a client. At most one is open, and it is the current one; nobody waits on any
other. A task that asks for a connection holds the lock all the while, so that there is no current
connection that a new one could take the place of.
-/

namespace RpcLink.Native

/-- The current one of `count` connections is open, and nobody waits on another one. -/
structure Connections (b : Switchboard) (count : Nat) (current : Option Nat) : Prop where
  aligned : b.exchanges.length = count
  there : ∀ {link}, link < count → (b.exchange link).dropped = false
  current_open : ∀ {link}, current = some link →
    link < count ∧ (b.exchange link).closed = none
  retired : ∀ {link}, link < count → current ≠ some link → b.Retired link

/-- What holds of a client at every moment. -/
structure Linked (c : Client) : Prop where
  connections : Connections c.board c.links.length c.current
  /-- Who asks for a connection holds the lock, and there is none. -/
  opening : ∀ {task host}, c.phase? task = some (.opening host) →
    c.lock.holder = some task ∧ c.current = none

namespace Connections

variable {b b' : Switchboard} {count : Nat} {current : Option Nat}

theorem shrinks (h : Connections b count current) (shrinks : b.Shrinks b') :
    Connections b' count current where
  aligned := shrinks.length_eq.trans h.aligned
  there {link} inside := (shrinks.dropped_eq link).trans (h.there inside)
  current_open {link} isCurrent := by
    obtain ⟨inside, opened⟩ := h.current_open isCurrent
    exact ⟨inside, (shrinks.closed_eq link).trans opened⟩
  retired inside other := shrinks.retired (h.retired inside other)

theorem register (h : Connections b count current) (x : Nat) (method : String) (params : Json) :
    Connections (b.register x method params).2 count current where
  aligned := (b.register_exchanges_length x method params).trans h.aligned
  there {link} inside := (b.register_dropped x link method params).trans (h.there inside)
  current_open {link} isCurrent := by
    obtain ⟨inside, opened⟩ := h.current_open isCurrent
    exact ⟨inside, (b.register_closed x link method params).trans opened⟩
  retired {link} inside other := (h.retired inside other).register b x link method params

/-- A further connection becomes the current one if there is none. -/
theorem openExchange (h : Connections b count none) :
    Connections b.openExchange (count + 1) (some count) := by
  have last : b.openExchange.exchange count = {} := by
    rw [Switchboard.exchange_openExchange, if_pos h.aligned.symm]
  have older : ∀ {link}, link < count + 1 → link ≠ count →
      link < count ∧ b.openExchange.exchange link = b.exchange link := by
    intro link inside other
    refine ⟨by omega, ?_⟩
    rw [Switchboard.exchange_openExchange, h.aligned, if_neg other]
  constructor
  case aligned => simp [Switchboard.openExchange, h.aligned]
  case there =>
    intro link inside
    by_cases same : link = count
    · rw [same, last]
    · obtain ⟨before, shape⟩ := older inside same
      rw [shape]
      exact h.there before
  case current_open =>
    intro link isCurrent
    obtain rfl := Option.some.inj isCurrent
    rw [last]
    exact ⟨Nat.lt_succ_self _, rfl⟩
  case retired =>
    intro link inside other
    obtain ⟨before, shape⟩ := older inside fun same => other (congrArg some same.symm)
    unfold Switchboard.Retired
    rw [shape]
    exact h.retired before (by simp)

/-- A connection ends. -/
theorem abort (h : Connections b count current) {link : Nat} (inside : link < count)
    (reason : String) :
    Connections (b.abort link reason).2 count (if current = some link then none else current) where
  aligned := (b.abort_exchanges_length link reason).trans h.aligned
  there {other} there := (b.abort_dropped link other reason).trans (h.there there)
  current_open {other} isCurrent := by
    split at isCurrent
    · cases isCurrent
    · rename_i notThis
      obtain ⟨there, opened⟩ := h.current_open isCurrent
      have apart : other ≠ link := by
        rintro rfl
        exact notThis isCurrent
      rw [b.abort_exchange_of_ne link other reason apart]
      exact ⟨there, opened⟩
  retired {other} there notCurrent := by
    by_cases same : other = link
    · subst same
      refine Switchboard.retired_abort (by rw [h.aligned]; exact inside) (fun closed => ?_) reason
      by_cases isCurrent : current = some other
      · rw [(h.current_open isCurrent).2] at closed
        cases closed
      · exact (h.retired inside isCurrent).2
    · refine (h.retired there fun isCurrent => notCurrent ?_).abort reason
      rw [if_neg fun isThis => same (Option.some.inj (isCurrent.symm.trans isThis))]
      exact isCurrent

end Connections

/-! ### The lock -/

theorem Grants.holder {c : Client} {task : Nat} {phase : Phase} {lock : FairLock}
    (grants : Grants c task phase lock) : lock.holder = some task := by
  cases grants with
  | free free => rfl
  | turn held => exact held

theorem abandon_holder {l : FairLock} {task : Nat} (other : l.holder ≠ some task) :
    (l.abandon task).holder = l.holder := by
  simp [FairLock.abandon, other]

/-- A phase in which the connector is not asked. -/
def Phase.isSettled : Phase → Prop
  | .opening _ => False
  | _ => True

theorem opening_of_setPhase {c : Client} {task t : Nat} {phase : Phase} {host : String}
    (asks : (c.setPhase task phase).phase? t = some (.opening host)) (settled : phase.isSettled) :
    t ≠ task ∧ c.phase? t = some (.opening host) := by
  rw [Client.setPhase_phase?] at asks
  split at asks
  · obtain ⟨-, -, rfl⟩ := Option.map_eq_some_iff.mp asks
    exact settled.elim
  · rename_i other
    exact ⟨other, asks⟩

namespace Linked

variable {c : Client} {task : Nat}

/-- Calls use a connection that there is. -/
theorem lt_of_live (h : Linked c) {link : Nat} (live : c.live? = some link) :
    link < c.links.length :=
  (h.connections.current_open (Client.live?_eq_some_iff.mp live).1).1

/-- Nobody else asks for a connection when a task gets the lock. -/
theorem not_opening_of_grants (h : Linked c) {job : Job} {phase : Phase} {lock : FairLock}
    (found : c.tasks[task]? = some { job, phase }) (grants : Grants c task phase lock)
    {t : Nat} {host : String} : c.phase? t ≠ some (.opening host) := by
  intro asks
  have holds := (h.opening asks).1
  cases grants with
  | free free =>
      rw [free] at holds
      cases holds
  | turn held =>
      rw [held] at holds
      rw [← Option.some.inj holds, Client.phase?_of_found found] at asks
      cases asks

theorem eq_of_opening (h : Linked c) {t : Nat} {host other : String}
    (asks : c.phase? task = some (.opening host)) (asks' : c.phase? t = some (.opening other)) :
    t = task :=
  Option.some.inj ((h.opening asks').1.symm.trans (h.opening asks).1)

/-- Nobody begins to ask, and the lock stays where it is. -/
theorem opening_of_frame (h : Linked c) {c' : Client}
    (fewer : ∀ {t host}, c'.phase? t = some (.opening host) → c.phase? t = some (.opening host))
    (holder : c'.lock.holder = c.lock.holder) (current : c.current = none → c'.current = none)
    {t : Nat} {host : String} (asks : c'.phase? t = some (.opening host)) :
    c'.lock.holder = some t ∧ c'.current = none := by
  obtain ⟨holds, none⟩ := h.opening (fewer asks)
  exact ⟨holder.trans holds, current none⟩

end Linked

/-! ### Sending -/

theorem Sent.connections {task link : Nat} {job : Job} {ask : Relay.Ask} {c c' : Client}
    {out : List (Nat × Json)} (sent : Sent task link job ask c out c')
    (h : Connections c.board c.links.length c.current) :
    Connections c'.board c'.links.length c'.current := by
  have registers := h.register link ask.method ask.params
  cases sent with
  | refused closed => exact h
  | @withdrawn request call board e registered reason =>
      rw [registered] at registers
      exact registers.shrinks (board.shrinks_forget link request.id)
  | posted registered fits taken =>
      rw [registered] at registers
      simpa using registers

theorem Sent.opening {task link : Nat} {job : Job} {ask : Relay.Ask} {c c' : Client}
    {out : List (Nat × Json)} (sent : Sent task link job ask c out c') {t : Nat} {host : String}
    (asks : c'.phase? t = some (.opening host)) :
    t ≠ task ∧ c.phase? t = some (.opening host) := by
  cases sent with
  | refused closed => exact opening_of_setPhase asks trivial
  | withdrawn registered reason => exact opening_of_setPhase asks trivial
  | posted registered fits taken => exact opening_of_setPhase asks trivial

theorem Sent.lock {task link : Nat} {job : Job} {ask : Relay.Ask} {c c' : Client}
    {out : List (Nat × Json)} (sent : Sent task link job ask c out c') :
    c'.lock = c.lock ∧ c'.current = c.current := by
  cases sent with
  | refused closed => exact ⟨rfl, rfl⟩
  | withdrawn registered reason => exact ⟨rfl, rfl⟩
  | posted registered fits taken => exact ⟨rfl, rfl⟩

/-! ### Moves -/

namespace Linked

variable {c c' : Client} {task : Nat} {out : List (Nat × Json)}

theorem letGo (h : Linked c) (task : Nat) {phase : Phase} (settled : phase.isSettled) :
    Linked ((c.letGo task).setPhase task phase) := by
  have others : ∀ {t host}, ((c.letGo task).setPhase task phase).phase? t = some (.opening host) →
      t ≠ task ∧ c.phase? t = some (.opening host) := by
    intro t host asks
    obtain ⟨other, asks⟩ := opening_of_setPhase asks settled
    rw [Client.phase?, Client.letGo_tasks] at asks
    exact ⟨other, asks⟩
  -- Whoever else asks holds the lock, which therefore stays where it is.
  have holder : ∀ {t host}, t ≠ task → c.phase? t = some (.opening host) →
      (c.lock.abandon task).holder = some t ∧ c.current = none := by
    intro t host other asks
    obtain ⟨holds, none⟩ := h.opening asks
    rw [abandon_holder (by rw [holds]; exact fun same => other (Option.some.inj same)), holds]
    exact ⟨rfl, none⟩
  unfold Client.letGo at others ⊢
  split at others
  · exact ⟨h.connections, fun asks => holder (others asks).1 (others asks).2⟩
  · exact ⟨h.connections, fun asks => holder (others asks).1 (others asks).2⟩
  · exact ⟨h.connections.shrinks (c.board.shrinks_settle _), fun asks => h.opening (others asks).2⟩
  · exact ⟨h.connections, fun asks => h.opening (others asks).2⟩

/-- The lock changes hands when nobody asks for a connection. -/
theorem of_lock (h : Linked c) (lock : FairLock)
    (nobody : ∀ {t host}, c.phase? t ≠ some (.opening host)) : Linked { c with lock } :=
  ⟨h.connections, fun asks => absurd asks nobody⟩

theorem sent (h : Linked c) {link : Nat} {job : Job} {ask : Relay.Ask}
    (sent : Sent task link job ask c out c') : Linked c' where
  connections := sent.connections h.connections
  opening := by
    obtain ⟨lock, current⟩ := sent.lock
    exact h.opening_of_frame (fun asks => (sent.opening asks).2) (by rw [lock])
      fun none => current.trans none

theorem giveUp (h : Linked c) :
    Connections c.giveUp.board c.giveUp.links.length c.giveUp.current := by
  cases current : c.current with
  | none =>
      rw [Client.giveUp_of_none current]
      exact h.connections
  | some link =>
      rw [Client.giveUp_of_some current]
      have ended := h.connections.abort (h.connections.current_open current).1 disconnectReason
      rw [if_pos current] at ended
      exact ended

theorem move (h : Linked c) (move : Move task c out c') : Linked c' := by
  cases move with
  | refuse found unread =>
      exact ⟨h.connections, fun asks => h.opening (opening_of_setPhase asks trivial).2⟩
  | queue found held =>
      exact ⟨h.connections, fun asks => h.opening (opening_of_setPhase asks trivial).2⟩
  | send found asks live sent => exact h.sent sent
  | sendLocked found asks grants live sent =>
      exact (h.of_lock _ (h.not_opening_of_grants found grants)).sent sent
  | dial found asks grants dead =>
      refine ⟨h.connections, fun {t host} opening => ?_⟩
      rw [Client.dialling, Client.setPhase_phase?] at opening
      split at opening
      · rename_i same
        rw [same]
        refine ⟨grants.holder, ?_⟩
        cases current : c.current with
        | none => exact current
        | some link =>
            have live :=
              Client.live?_eq_some_iff.mpr ⟨current, (h.connections.current_open current).2⟩
            rw [dead] at live
            cases live
      · exact absurd opening (h.not_opening_of_grants found grants)
  | fail found asks =>
      have isOpening := Client.phase?_of_found found
      have none := (h.opening isOpening).2
      have connections := h.connections
      rw [none] at connections
      refine ⟨connections, fun opening => ?_⟩
      obtain ⟨other, opening⟩ := opening_of_setPhase opening trivial
      exact absurd (h.eq_of_opening isOpening opening) other
  | connect found asks sent =>
      have isOpening := Client.phase?_of_found found
      have none := (h.opening isOpening).2
      have connections := h.connections
      rw [none] at connections
      constructor
      · refine sent.connections ?_
        simpa using connections.openExchange
      · intro t host opening
        obtain ⟨other, opening⟩ := sent.opening opening
        exact absurd (h.eq_of_opening isOpening opening) other
  | disconnect found asks grants =>
      refine ⟨h.giveUp, fun opening => ?_⟩
      obtain ⟨-, opening⟩ := opening_of_setPhase opening trivial
      rw [Client.phase?, Client.giveUp_tasks] at opening
      exact absurd opening (h.not_opening_of_grants found grants)
  | answer found told =>
      rename_i call result board
      have polled := c.board.shrinks_poll call
      rw [told] at polled
      exact ⟨h.connections.shrinks polled,
        fun asks => h.opening (opening_of_setPhase asks trivial).2⟩
  | expire found waits limited limit => exact h.letGo task trivial

/-! ### Events -/

theorem endLink (h : Linked c) {link : Nat} (inside : link < c.links.length) (reason : String) :
    Linked (c.endLink link reason) where
  connections := by
    have ended := h.connections.abort inside reason
    simpa [Client.endLink] using ended
  opening := by
    intro t host asks
    obtain ⟨holds, none⟩ := h.opening asks
    exact ⟨holds, by simp [Client.endLink, none]⟩

theorem takeEvents (h : Linked c) {link : Nat} (inside : link < c.links.length) (ended : Bool)
    (events : List PortEvent) : Linked (c.takeEvents link ended events) := by
  induction events generalizing c with
  | nil =>
      unfold Client.takeEvents
      split
      · exact h.endLink inside lostReason
      · exact h
  | cons event rest ih =>
      cases event with
      | message v =>
          have dispatched : Linked { c with board := c.board.dispatch link (.message v) } :=
            ⟨h.connections.shrinks (c.board.shrinks_dispatch link (.message v)), h.opening⟩
          exact ih dispatched inside
      | disconnected reason => exact h.endLink inside reason

theorem attend (h : Linked c) (link : Nat) (most : Option Nat) : Linked (c.attend link most) := by
  unfold Client.attend
  split
  · exact h
  · rename_i l found
    obtain ⟨inside, -⟩ := List.getElem?_eq_some_iff.mp found
    split
    · apply takeEvents
      case h => exact ⟨by simpa using h.connections, h.opening⟩
      case inside => simpa using inside
    · exact h

theorem onPort (h : Linked c) {α : Type} (link : Nat) (act : Port → α × Port) (absent : α) :
    Linked (c.onPort link act absent).2 := by
  unfold Client.onPort
  split
  · exact h
  · split
    · exact h
    · exact ⟨by simpa using h.connections, h.opening⟩

theorem spawn (h : Linked c) (job : Job) : Linked (c.spawn job) := by
  have older : ∀ {t host}, (c.spawn job).phase? t = some (.opening host) →
      c.phase? t = some (.opening host) := by
    intro t host asks
    simp only [Client.phase?, Client.spawn, Option.map_eq_some_iff] at asks ⊢
    obtain ⟨k, found, phase⟩ := asks
    rw [List.getElem?_append] at found
    split at found
    · exact ⟨k, found, phase⟩
    · obtain rfl := List.mem_singleton.mp (List.mem_of_getElem? found)
      cases phase
  exact ⟨h.connections, fun asks => h.opening (older asks)⟩

theorem cancel (h : Linked c) (task : Nat) : Linked (c.cancel task) := by
  unfold Client.cancel
  split
  · exact h
  · exact h.letGo task trivial

theorem happen (h : Linked c) (e : Event) : Linked (c.happen e) := by
  cases e with
  | spawn job => exact h.spawn job
  | step task dial timeUp =>
      exact Client.step_keeps (fun holds move => holds.move move) h dial timeUp
  | cancel task => exact h.cancel task
  | attend link most => exact h.attend link most
  | peer link act => exact h.onPort link _ ()
  | configure settings => exact ⟨h.connections, h.opening⟩

theorem run (h : Linked c) (es : List Event) : Linked (c.run es) := by
  induction es generalizing c with
  | nil => exact h
  | cons e es ih => exact ih (h.happen e)

end Linked

theorem linked_fresh (config : Config) (settings : Settings) :
    Linked (Client.fresh config settings) where
  connections := ⟨rfl, by simp [Client.fresh], by simp [Client.fresh], by simp [Client.fresh]⟩
  opening := by simp [Client.phase?, Client.fresh]

/-! ### Who waits -/

/-- A sum to which at most one place of a list contributes. -/
theorem sum_map_eq_of_alone {α : Type} {f : α → Nat} {xs : List α} {k : Nat}
    (alone : ∀ i x, xs[i]? = some x → i ≠ k → f x = 0) :
    (xs.map f).sum = (xs[k]?.map f).getD 0 := by
  induction xs generalizing k with
  | nil => rfl
  | cons x xs ih =>
      rw [List.map_cons, List.sum_cons]
      cases k with
      | zero =>
          have others : ∀ y ∈ xs.map f, y = 0 := by
            intro y member
            obtain ⟨z, there, rfl⟩ := List.mem_map.mp member
            obtain ⟨i, found⟩ := List.mem_iff_getElem?.mp there
            exact alone (i + 1) z found (Nat.succ_ne_zero i)
          simp [List.sum_eq_zero_iff_forall_eq_nat.mpr others]
      | succ k =>
          have first := alone 0 x rfl (Nat.succ_ne_zero k).symm
          rw [first, Nat.zero_add, ih (k := k) fun i y found other =>
            alone (i + 1) y found fun same => other (Nat.succ.inj same)]
          rfl

theorem Linked.pendingCount_eq_sum {c : Client} (h : Linked c) :
    c.pendingCount = (c.board.exchanges.map fun e => e.waiting.length).sum := by
  have place : ∀ {i e}, c.board.exchanges[i]? = some e →
      i < c.links.length ∧ c.board.exchange i = e := by
    intro i e found
    obtain ⟨inside, -⟩ := List.getElem?_eq_some_iff.mp found
    refine ⟨h.connections.aligned ▸ inside, ?_⟩
    simp [Switchboard.exchange, found]
  have empty : ∀ {i e}, c.board.exchanges[i]? = some e → c.current ≠ some i →
      e.waiting.length = 0 := by
    intro i e found other
    obtain ⟨inside, rfl⟩ := place found
    rw [(h.connections.retired inside other).2]
    rfl
  unfold Client.pendingCount
  cases current : c.current with
  | none =>
      have nobody := sum_map_eq_of_alone (f := fun e => e.waiting.length)
        (k := c.board.exchanges.length) fun i e found _ => empty found (by simp [current])
      simpa using nobody.symm
  | some link =>
      have inside := (h.connections.current_open current).1
      rw [← h.connections.aligned] at inside
      have found := List.getElem?_eq_getElem inside
      have alone := sum_map_eq_of_alone (f := fun e => e.waiting.length) (k := link)
        fun i e found other => empty found (by
          rw [current]
          exact fun same => other (Option.some.inj same).symm)
      rw [alone, found, ← (place found).2]
      rfl

/-- No call is stranded. At every moment the current connection is open, every other connection is
closed and nobody waits on it, and so those who wait on the current one are all who wait. -/
theorem calls_wait_only_on_current_connection (config : Config) (settings : Settings)
    (es : List Event) :
    let c := (Client.fresh config settings).run es
    c.board.exchanges.length = c.links.length ∧
    (∀ link, c.current = some link →
      link < c.links.length ∧ (c.board.exchange link).isOpen = true) ∧
    (∀ link, link < c.links.length → c.current ≠ some link →
      (c.board.exchange link).isOpen = false ∧ (c.board.exchange link).waiting = []) ∧
    (∀ i j, i < c.links.length → j < c.links.length →
      (c.board.exchange i).isOpen = true → (c.board.exchange j).isOpen = true → i = j) ∧
    c.pendingCount = (c.board.exchanges.map fun e => e.waiting.length).sum := by
  intro c
  have h : Linked c := (linked_fresh config settings).run es
  have others : ∀ link, link < c.links.length → c.current ≠ some link →
      (c.board.exchange link).isOpen = false ∧ (c.board.exchange link).waiting = [] := by
    intro link inside other
    obtain ⟨closed, empty⟩ := h.connections.retired inside other
    obtain ⟨reason, closed⟩ := Option.isSome_iff_exists.mp closed
    exact ⟨by simp [Exchange.isOpen, closed], empty⟩
  have isCurrent : ∀ i, i < c.links.length → (c.board.exchange i).isOpen = true →
      c.current = some i := by
    intro i inside opened
    by_cases same : c.current = some i
    · exact same
    · rw [(others i inside same).1] at opened
      cases opened
  refine ⟨h.connections.aligned, ?_, others, ?_, h.pendingCount_eq_sum⟩
  · intro link current
    obtain ⟨inside, opened⟩ := h.connections.current_open current
    exact ⟨inside, by simp [Exchange.isOpen, opened]⟩
  · intro i j hi hj openI openJ
    exact Option.some.inj ((isCurrent i hi openI).symm.trans (isCurrent j hj openJ))

end RpcLink.Native
