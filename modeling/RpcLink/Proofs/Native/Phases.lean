import RpcLink.Proofs.Native.Moves

/-!
How far the tasks of a client are. A move takes its task to a later phase and leaves the others
where they are, and what happens to the ports touches no task. So no task goes back, and one that is
in the same phase at two moments of a run was in it all the while between them.
-/

namespace RpcLink.Native

/-- The place of a phase in the order in which a task comes through them. -/
@[simp] def Phase.rank : Phase → Nat
  | .fresh => 0
  | .queued => 1
  | .opening _ => 2
  | .awaiting _ => 3
  | .done _ | .cancelled => 4

/-- A task in the first phase may come to the second. -/
def Phase.Onward (p q : Phase) : Prop := q = p ∨ p.rank < q.rank

namespace Phase.Onward

variable {p q r : Phase}

theorem refl (p : Phase) : p.Onward p := .inl rfl

theorem rank_le (h : p.Onward q) : p.rank ≤ q.rank := by
  rcases h with rfl | less
  · exact Nat.le_refl _
  · exact Nat.le_of_lt less

theorem trans (h : p.Onward q) (h' : q.Onward r) : p.Onward r := by
  rcases h' with rfl | less
  · exact h
  · exact .inr (Nat.lt_of_le_of_lt h.rank_le less)

theorem antisymm (h : p.Onward q) (back : q.Onward p) : q = p := by
  rcases h with same | less
  · exact same
  · exact absurd back.rank_le (Nat.not_le_of_lt less)

end Phase.Onward

/-- One task comes from a phase to a later one, and no other task to any. -/
structure Goes (c : Client) (task : Nat) (old new : Phase) (c' : Client) : Prop where
  before : c.phase? task = some old
  later : old.rank < new.rank
  after : ∀ t, c'.phase? t = if t = task then some new else c.phase? t

theorem Client.phase?_of_tasks_eq {c c' : Client} (same : c'.tasks = c.tasks) (t : Nat) :
    c'.phase? t = c.phase? t := by
  rw [phase?, phase?, same]

section

variable {c a c' : Client} {task link : Nat} {job : Job} {ask : Relay.Ask} {old new : Phase}
  {out : List (Nat × Json)}

theorem goes_setPhase (same : a.tasks = c.tasks) (before : c.phase? task = some old)
    (later : old.rank < new.rank) : Goes c task old new (a.setPhase task new) where
  before := before
  later := later
  after t := by
    rw [Client.setPhase_phase?, Client.phase?_of_tasks_eq same]
    split
    · rename_i this
      rw [this, before]
      rfl
    · rfl

/-- A task that sends waits for the response then, or has come to its end. -/
theorem Sent.goes (sent : Sent task link job ask a out c') (before : c.phase? task = some old)
    (early : old.rank < 3) (same : a.tasks = c.tasks) :
    ∃ new, 3 ≤ new.rank ∧ Goes c task old new c' := by
  cases sent with
  | refused closed =>
      exact ⟨.done _, by simp, goes_setPhase same before (Nat.lt_succ_of_lt early)⟩
  | withdrawn registered reason =>
      exact ⟨.done _, by simp, goes_setPhase same before (Nat.lt_succ_of_lt early)⟩
  | @posted request call board registered fits taken =>
      exact ⟨.awaiting call, by simp, goes_setPhase same before early⟩

theorem Grants.rank_lt {phase : Phase} {lock : FairLock} (grants : Grants c task phase lock) :
    phase.rank < 2 := by
  cases grants with
  | free free => decide
  | turn held => decide

/-- A task gets in line for the lock. -/
theorem goes_queued (found : c.tasks[task]? = some { job, phase := .fresh }) (lock : FairLock) :
    Goes c task .fresh .queued (Client.setPhase { c with lock } task .queued) :=
  goes_setPhase rfl (Client.phase?_of_found found) (by simp)

/-- A task asks the connector. -/
theorem Grants.goes {phase : Phase} {lock : FairLock} (grants : Grants c task phase lock)
    (found : c.tasks[task]? = some { job, phase }) :
    Goes c task phase (.opening (c.config.hostName c.settings)) (c.dialling task lock) :=
  goes_setPhase rfl (Client.phase?_of_found found) grants.rank_lt

theorem rank_lt_of_not_isOver {t : Task} (waits : t.isOver = false) : t.phase.rank < 4 := by
  unfold Task.isOver at waits
  cases phase : t.phase <;> simp_all [Phase.rank]

/-- A move takes its task on. -/
theorem Move.goes (move : Move task c out c') : ∃ old new, Goes c task old new c' := by
  cases move with
  | refuse found unread =>
      exact ⟨_, _, goes_setPhase rfl (Client.phase?_of_found found) (by simp)⟩
  | queue found held => exact ⟨_, _, goes_queued found _⟩
  | send found asks live sent =>
      obtain ⟨new, -, goes⟩ := sent.goes (Client.phase?_of_found found) (by simp) rfl
      exact ⟨_, new, goes⟩
  | sendLocked found asks grants live sent =>
      have early := Nat.lt_succ_of_lt grants.rank_lt
      obtain ⟨new, -, goes⟩ := sent.goes (Client.phase?_of_found found) early rfl
      exact ⟨_, new, goes⟩
  | dial found asks grants dead => exact ⟨_, _, grants.goes found⟩
  | fail found asks =>
      exact ⟨_, _, goes_setPhase rfl (Client.phase?_of_found found) (by simp)⟩
  | connect found asks sent =>
      obtain ⟨new, -, goes⟩ := sent.goes (Client.phase?_of_found found) (by simp) rfl
      exact ⟨_, new, goes⟩
  | disconnect found asks grants =>
      exact ⟨_, _, goes_setPhase c.giveUp_tasks (Client.phase?_of_found found)
        (Nat.lt_of_lt_of_le grants.rank_lt (by simp))⟩
  | answer found told =>
      exact ⟨_, _, goes_setPhase rfl (Client.phase?_of_found found) (by simp)⟩
  | expire found waits limited limit =>
      exact ⟨_, _, goes_setPhase (c.letGo_tasks task) (Client.phase?_of_found found)
        (rank_lt_of_not_isOver waits)⟩

/-- A task stays in its phase or goes on. -/
theorem Goes.onward (goes : Goes c task old new c') {t : Nat} {p : Phase}
    (found : c.phase? t = some p) : ∃ q, c'.phase? t = some q ∧ p.Onward q := by
  rw [goes.after]
  split
  · rename_i this
    obtain rfl : old = p := Option.some.inj (goes.before.symm.trans (this ▸ found))
    exact ⟨new, rfl, .inr goes.later⟩
  · exact ⟨p, found, .refl p⟩

end

/-! ### Events -/

/-- The tasks go on as if nothing had happened. At most the connection is lost. -/
structure Quiet (c c' : Client) : Prop where
  tasks : c'.tasks = c.tasks
  lock : c'.lock = c.lock
  connecting : c'.connecting = c.connecting
  dialled : c'.dialled = c.dialled
  links_length : c'.links.length = c.links.length
  current : c'.current = c.current ∨ c'.current = none

theorem quiet_endLink (c : Client) (link : Nat) (reason : String) :
    Quiet c (c.endLink link reason) where
  tasks := rfl
  lock := rfl
  connecting := rfl
  dialled := rfl
  links_length := List.length_modify ..
  current := by
    unfold Client.endLink
    dsimp only
    split
    · exact .inr rfl
    · exact .inl rfl

theorem quiet_takeEvents (c : Client) (link : Nat) (ended : Bool) (events : List PortEvent) :
    Quiet c (c.takeEvents link ended events) := by
  induction events generalizing c with
  | nil =>
      unfold Client.takeEvents
      split
      · exact quiet_endLink c link lostReason
      · exact ⟨rfl, rfl, rfl, rfl, rfl, .inl rfl⟩
  | cons event rest ih =>
      cases event with
      | message v =>
          obtain ⟨tasks, lock, connecting, dialled, length, current⟩ :=
            ih { c with board := c.board.dispatch link (.message v) }
          exact ⟨tasks, lock, connecting, dialled, length, current⟩
      | disconnected reason => exact quiet_endLink c link reason

theorem quiet_attend (c : Client) (link : Nat) (most : Option Nat) :
    Quiet c (c.attend link most) := by
  unfold Client.attend
  split
  · exact ⟨rfl, rfl, rfl, rfl, rfl, .inl rfl⟩
  · split
    · obtain ⟨tasks, lock, connecting, dialled, length, current⟩ := quiet_takeEvents _ link _ _
      exact ⟨tasks, lock, connecting, dialled, length.trans (List.length_modify ..), current⟩
    · exact ⟨rfl, rfl, rfl, rfl, rfl, .inl rfl⟩

theorem quiet_onPort (c : Client) {α : Type} (link : Nat) (act : Port → α × Port) (absent : α) :
    Quiet c (c.onPort link act absent).2 := by
  unfold Client.onPort
  split
  · exact ⟨rfl, rfl, rfl, rfl, rfl, .inl rfl⟩
  · split
    · exact ⟨rfl, rfl, rfl, rfl, rfl, .inl rfl⟩
    · exact ⟨rfl, rfl, rfl, rfl, List.length_modify .., .inl rfl⟩

/-- What happens other than a step. -/
inductive Quietly (c : Client) : Client → Prop where
  | spawned (job : Job) : Quietly c (c.spawn job)
  | cancelled {task : Nat} {t : Task} (found : c.tasks[task]? = some t) (waits : t.isOver = false) :
      Quietly c ((c.letGo task).setPhase task .cancelled)
  | quiet {c' : Client} (quiet : Quiet c c') : Quietly c c'

namespace Client

theorem cancel_quietly (c : Client) (task : Nat) : Quietly c (c.cancel task) := by
  unfold cancel isOver
  cases found : c.tasks[task]? with
  | none => exact .quiet ⟨rfl, rfl, rfl, rfl, rfl, .inl rfl⟩
  | some t =>
      cases waits : t.isOver with
      | true => simpa [waits] using Quietly.quiet (c := c) ⟨rfl, rfl, rfl, rfl, rfl, .inl rfl⟩
      | false => simpa [waits] using Quietly.cancelled found waits

theorem happen_cases (c : Client) (e : Event) :
    (∃ task dial timeUp, e = .step task dial timeUp) ∨ Quietly c (c.happen e) := by
  cases e with
  | step task dial timeUp => exact .inl ⟨task, dial, timeUp, rfl⟩
  | spawn job => exact .inr (.spawned job)
  | cancel task => exact .inr (c.cancel_quietly task)
  | attend link most => exact .inr (.quiet (quiet_attend c link most))
  | peer link act => exact .inr (.quiet (quiet_onPort c link _ ()))
  | configure settings => exact .inr (.quiet ⟨rfl, rfl, rfl, rfl, rfl, .inl rfl⟩)

/-- What every move keeps, and what happens now if that is no step, is kept by what happens. -/
theorem happen_keeps {P : Client → Prop} {c : Client}
    (moves : ∀ {a task out b}, P a → Move task a out b → P b) (h : P c) (e : Event)
    (quietly : Quietly c (c.happen e) → P (c.happen e)) : P (c.happen e) := by
  rcases c.happen_cases e with ⟨task, dial, timeUp, rfl⟩ | isQuiet
  · exact step_keeps moves h dial timeUp
  · exact quietly isQuiet

theorem run_append (c : Client) (es fs : List Event) : c.run (es ++ fs) = (c.run es).run fs :=
  List.foldl_append ..

theorem spawn_phase? (c : Client) (job : Job) {t : Nat} {p : Phase} :
    (c.spawn job).phase? t = some p ↔
      c.phase? t = some p ∨ t = c.tasks.length ∧ p = .fresh := by
  unfold phase? spawn
  rcases Nat.lt_trichotomy t c.tasks.length with less | rfl | more
  · rw [List.getElem?_append_left less]
    simp [Nat.ne_of_lt less]
  · simp [eq_comm]
  · rw [List.getElem?_eq_none (by simp; omega), List.getElem?_eq_none (by omega)]
    simp [Nat.ne_of_gt more]

/-- A task that lets go has come to its end. -/
theorem letGo_goes {c : Client} {task : Nat} {t : Task} {phase : Phase}
    (found : c.tasks[task]? = some t) (waits : t.isOver = false) (last : phase.rank = 4) :
    Goes c task t.phase phase ((c.letGo task).setPhase task phase) :=
  goes_setPhase (c.letGo_tasks task) (phase?_of_found found)
    (last ▸ rank_lt_of_not_isOver waits)

theorem happen_onward {c : Client} {t : Nat} {p : Phase} (found : c.phase? t = some p) (e : Event) :
    ∃ q, (c.happen e).phase? t = some q ∧ p.Onward q := by
  refine happen_keeps (P := fun b => ∃ q, b.phase? t = some q ∧ p.Onward q) ?moves
    ⟨p, found, .refl p⟩ e ?quietly
  case moves =>
    rintro a task out b ⟨q, found, onward⟩ move
    obtain ⟨old, new, goes⟩ := move.goes
    obtain ⟨r, there, further⟩ := goes.onward found
    exact ⟨r, there, onward.trans further⟩
  case quietly =>
    intro quietly
    generalize c.happen e = b at quietly
    cases quietly with
    | spawned job => exact ⟨p, (c.spawn_phase? job).mpr (.inl found), .refl p⟩
    | @cancelled task k known waits =>
        have goes : Goes c task k.phase .cancelled ((c.letGo task).setPhase task .cancelled) :=
          letGo_goes known waits rfl
        exact goes.onward found
    | quiet quiet => exact ⟨p, (phase?_of_tasks_eq quiet.tasks t).trans found, .refl p⟩

theorem run_onward {c : Client} {t : Nat} {p : Phase} (found : c.phase? t = some p)
    (es : List Event) : ∃ q, (c.run es).phase? t = some q ∧ p.Onward q := by
  induction es generalizing c p with
  | nil => exact ⟨p, found, .refl p⟩
  | cons e es ih =>
      obtain ⟨q, there, onward⟩ := happen_onward found e
      obtain ⟨r, last, further⟩ := ih there
      exact ⟨r, last, onward.trans further⟩

/-- A task that is in one phase at two moments was in it between them. -/
theorem phase?_between {c : Client} {t : Nat} {p : Phase} {es fs : List Event}
    (first : c.phase? t = some p) (last : (c.run (es ++ fs)).phase? t = some p) :
    (c.run es).phase? t = some p := by
  obtain ⟨q, between, onward⟩ := run_onward first es
  obtain ⟨r, there, back⟩ := run_onward between fs
  rw [← run_append, last] at there
  obtain rfl := Option.some.inj there
  rw [between, onward.antisymm back]

end Client

end RpcLink.Native
