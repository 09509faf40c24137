import RpcLink.Proofs.Pipe.Run

/-!
When a further server is started. Every part of a task's step but one leaves the number of channels
as it is, and that one is reached only by a task that was given the lock or finds it free, while
there is no channel that calls could use.
-/

namespace RpcLink.Pipe.Client

section

variable (c : Client) (task : Nat) (job : Job) (x : Nat)

@[simp] theorem onChannel_channels_length (e : Event) :
    (c.onChannel x e).channels.length = c.channels.length :=
  (c.silent_onChannel x e).channels_length

@[simp] theorem awaitDiscarded_channels (e : Failure) :
    (c.awaitDiscarded task job x e).channels = c.channels := by
  unfold awaitDiscarded
  split <;> rfl

@[simp] theorem reap_channels : (c.reap task x).channels = c.channels := by
  unfold reap
  split <;> rfl

@[simp] theorem discard_channels_length (e : Failure) :
    (c.discard task job x e).channels.length = c.channels.length := by
  simp [discard]

@[simp] theorem closeDown_channels_length :
    (c.closeDown task x).channels.length = c.channels.length := by
  simp [closeDown]

@[simp] theorem write_channels_length (purpose : Purpose) (request : Request) (call : Nat)
    (writing : Option (Except SystemError Unit)) :
    (c.write task job purpose x request call writing).channels.length = c.channels.length := by
  cases writing with
  | none => rfl
  | some result =>
      cases result with
      | ok _ => exact List.length_modify ..
      | error e => cases purpose <;> simp [write, giveUp, finish, setPhase]

@[simp] theorem send_channels_length (purpose : Purpose) (method : String) (params : Json)
    (writing : Option (Except SystemError Unit)) :
    (c.send task job purpose x method params writing).channels.length = c.channels.length := by
  unfold send
  split
  · cases purpose <;> simp [giveUp, finish, setPhase]
  · simp

@[simp] theorem useChannel_channels_length (writing : Option (Except SystemError Unit)) :
    (c.useChannel task job x writing).channels.length = c.channels.length := by
  unfold useChannel
  split
  · rfl
  · simp

@[simp] theorem greeted_channels_length (result : Except Failure Response)
    (writing : Option (Except SystemError Unit)) :
    (c.greeted task job x result writing).channels.length = c.channels.length := by
  unfold greeted
  split <;> simp [release]

@[simp] theorem stop_channels_length (writing : Option (Except SystemError Unit)) :
    (c.stop task job writing).channels.length = c.channels.length := by
  unfold stop
  split
  · rfl
  · dsimp only
    split <;> simp

end

/-! ### The one place -/

section

variable {c : Client} {task : Nat} {job : Job} {m : Moment}

theorem withLock_grows (grows : c.channels.length < (c.withLock task job m).channels.length) :
    c.live? = none := by
  unfold withLock at grows
  split at grows
  · simp at grows
  · split at grows
    · simp [release] at grows
    · assumption

theorem askLock_grows (grows : c.channels.length < (c.askLock task job m).channels.length) :
    c.live? = none ∧ c.lock.holder = none := by
  cases holder : c.lock.holder with
  | none =>
      rw [askLock_of_free holder] at grows
      have dead :=
        withLock_grows (c := { c with lock := { c.lock with holder := some task } }) grows
      exact ⟨dead, rfl⟩
  | some other =>
      rw [askLock_of_held holder] at grows
      simp [setPhase] at grows

theorem startOnChannel_grows
    (grows : c.channels.length < (c.startOnChannel task job m).channels.length) :
    c.live? = none ∧ c.lock.holder = none := by
  unfold startOnChannel at grows
  split at grows
  · simp at grows
  · exact askLock_grows grows

theorem begin_grows (grows : c.channels.length < (c.begin task job m).channels.length) :
    c.live? = none ∧ c.lock.holder = none := by
  unfold begin at grows
  split at grows
  · exact askLock_grows grows
  · split at grows
    · simp [setPhase] at grows
    · exact startOnChannel_grows grows
  · exact startOnChannel_grows grows

theorem proceed_grows {t : Task}
    (grows : c.channels.length < (c.proceed task t m).channels.length) :
    c.live? = none ∧ (t.phase = .fresh ∧ c.lock.holder = none ∨
      t.phase = .queued ∧ c.lock.holder = some task) := by
  unfold proceed at grows
  split at grows
  · rename_i fresh
    obtain ⟨dead, free⟩ := begin_grows grows
    exact ⟨dead, .inl ⟨fresh, free⟩⟩
  · rename_i queued
    split at grows
    · rename_i held
      exact ⟨withLock_grows grows, .inr ⟨queued, beq_iff_eq.mp held⟩⟩
    · exact absurd grows (Nat.lt_irrefl _)
  · simp at grows
  · split at grows
    · simp at grows
    · split at grows
      · simp at grows
      · exact absurd grows (Nat.lt_irrefl _)
  · simp at grows
  · split at grows
    · simp [finish, setPhase] at grows
    · exact absurd grows (Nat.lt_irrefl _)
  · split at grows
    · simp at grows
    · split at grows
      · simp at grows
      · exact absurd grows (Nat.lt_irrefl _)
  · simp at grows
  · exact absurd grows (Nat.lt_irrefl _)
  · exact absurd grows (Nat.lt_irrefl _)

theorem step_channels_length {t : Task} (found : c.tasks[task]? = some t) :
    (c.step task m).channels.length = (c.proceed task t m).channels.length := by
  rcases step_cases (m := m) found with whole | ⟨e, expired⟩
  · rw [whole, (silent_sweep _).channels_length]
  · rw [expired, (silent_sweep _).channels_length, (silent_setPhase ..).channels_length,
      (silent_letGo ..).channels_length]

/-- A server is started only by a task that was given the lock or finds it free, and only if there
is no channel that calls could use. -/
theorem step_grows (grows : c.channels.length < (c.step task m).channels.length) :
    ∃ t, c.tasks[task]? = some t ∧ c.live? = none ∧ (t.phase = .fresh ∧ c.lock.holder = none ∨
      t.phase = .queued ∧ c.lock.holder = some task) := by
  cases found : c.tasks[task]? with
  | none =>
      unfold step at grows
      simp [found] at grows
  | some t =>
      rw [step_channels_length found] at grows
      exact ⟨t, rfl, proceed_grows grows⟩

end

end RpcLink.Pipe.Client
