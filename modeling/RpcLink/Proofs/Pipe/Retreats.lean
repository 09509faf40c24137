import RpcLink.Proofs.Pipe.Run

/-!
How a task gives up what it was about. It may close a channel, kill a server, wait for the server's
end and come to its own end, but it asks nothing more of any server; and it gives the lock on only
if it holds it.
-/

namespace RpcLink

namespace FairLock

/-- The lock is taken from nobody but a task. -/
def Spares (task : Nat) (l l' : FairLock) : Prop :=
  ∀ t, t ≠ task → l.holder = some t → l'.holder = some t

variable {task : Nat} {l l' : FairLock}

theorem Spares.refl (task : Nat) (l : FairLock) : Spares task l l := fun _ _ holds => holds

theorem Spares.of_held (held : l.holder = some task) : Spares task l l' :=
  fun _ other holds => absurd (Option.some.inj (holds.symm.trans held)) other

theorem Spares.of_free (free : l.holder = none) : Spares task l l' :=
  fun t _ holds => by simp [free] at holds

/-- Who wants the lock no more leaves it to another only if it had it. -/
theorem spares_abandon (l : FairLock) (task : Nat) : Spares task l (l.abandon task) := by
  unfold abandon
  split
  · rename_i held
    exact .of_held held
  · exact .refl task l

end FairLock

namespace Pipe

open FairLock (Spares)

/-- A task asks nothing more of any server. The other tasks are where they were, and the lock is
taken from none of them. -/
structure Retreats (task : Nat) (c c' : Client) : Prop where
  silent : Silent c c'
  others : ∀ t, t ≠ task → c'.phase? t = c.phase? t
  lock : Spares task c.lock c'.lock
  own : ∀ p, c'.phase? task = some p →
    p.asksNothing ∧ (p.holdsLock → c'.lock.holder = some task)

namespace Retreats

variable {c a c' : Client} {task : Nat} {p : Phase}

/-- A task comes to a phase in which it asks nothing, after what it did to channels and the lock. -/
theorem setPhase (silent : Silent c a) (same : a.tasks = c.tasks)
    (lock : Spares task c.lock a.lock) (asks : p.asksNothing)
    (holds : p.holdsLock → a.lock.holder = some task) : Retreats task c (a.setPhase task p) where
  silent := silent.trans (a.silent_setPhase task p)
  others t other := by
    rw [Client.setPhase_phase?, if_neg other]
    exact Client.phase?_of_tasks_eq same t
  lock := lock
  own q found := by
    rw [Client.setPhase_phase?, if_pos rfl] at found
    obtain ⟨-, -, rfl⟩ := Option.map_eq_some_iff.mp found
    exact ⟨asks, holds⟩

/-- What is done to channels before makes no difference. -/
theorem after (silent : Silent c a) (tasks : a.tasks = c.tasks) (lock : a.lock = c.lock)
    (retreats : Retreats task a c') : Retreats task c c' where
  silent := silent.trans retreats.silent
  others t other := (retreats.others t other).trans (Client.phase?_of_tasks_eq tasks t)
  lock := lock ▸ retreats.lock
  own := retreats.own

end Retreats

namespace Client

section

variable (c : Client) (task : Nat) (job : Job) (x : Nat)

theorem letGo_lock : Spares task c.lock (c.letGo task).lock := by
  unfold letGo
  split
  all_goals first
    | exact .refl task c.lock
    | exact c.lock.spares_abandon task

/-- A task that lets go has come to its end. -/
theorem letGo_retreats {p : Phase} (asks : p.asksNothing) (free : p.holdsLock = false) :
    Retreats task c ((c.letGo task).setPhase task p) :=
  .setPhase (c.silent_letGo task) (c.letGo_tasks task) (c.letGo_lock task) asks
    fun holds => by simp [free] at holds

theorem finish_retreats (result : Except Failure Response) :
    Retreats task c (c.finish task job result) :=
  .setPhase (.refl c) rfl (.refl task c.lock) rfl (by simp [Phase.holdsLock])

variable {c task} (held : c.lock.holder = some task)
include held

theorem fail_retreats (e : Failure) : Retreats task c (c.fail task job e) :=
  .setPhase ⟨rfl, fun _ given => given, rfl, .refl _, .inr rfl⟩ rfl (.of_held held) rfl
    (by simp [Phase.holdsLock])

theorem awaitDiscarded_retreats (e : Failure) :
    Retreats task c (c.awaitDiscarded task job x e) := by
  unfold awaitDiscarded
  split
  · exact fail_retreats job held e
  · exact .setPhase (.refl c) rfl (.refl task c.lock) rfl fun _ => held

/-- Once its channel is closed, the server of a failed greeting is killed and waited for. -/
theorem kill_awaitDiscarded_retreats (e : Failure) :
    Retreats task c ((c.onChannel x .kill).awaitDiscarded task job x e) := by
  have still : (c.onChannel x .kill).lock.holder = some task := by
    rw [onChannel_lock]
    exact held
  exact .after (c.silent_onChannel x .kill) (c.onChannel_tasks x .kill) (c.onChannel_lock x .kill)
    (awaitDiscarded_retreats job x still e)

theorem discard_retreats (e : Failure) : Retreats task c (c.discard task job x e) := by
  have rest := kill_awaitDiscarded_retreats (c := { c with board := (c.board.abort x e.message).2 })
    job x held e
  exact .after (c.silent_setBoard (c.board.keeps_abort x e.message)) rfl rfl rest

theorem reap_retreats : Retreats task c (c.reap task x) := by
  unfold reap
  split
  · exact .setPhase (c.silent_setLock _) rfl (.of_held held) rfl (by simp [Phase.holdsLock])
  · exact .setPhase (.refl c) rfl (.refl task c.lock) rfl fun _ => held

theorem closeDown_retreats : Retreats task c (c.closeDown task x) := by
  have silent : Silent c ({ c with board := (c.board.abort x stopReason).2 }.onChannel x .kill) :=
    (c.silent_setBoard (c.board.keeps_abort x stopReason)).trans (silent_onChannel _ x .kill)
  refine .after silent (onChannel_tasks ..) (onChannel_lock ..) (reap_retreats x ?_)
  rw [onChannel_lock]
  exact held

end

/-- What a request was for comes to nothing. Whoever greets or stops a server holds the lock. -/
theorem giveUp_retreats {c : Client} {task : Nat} (job : Job) (x : Nat) (e : Failure)
    {purpose : Purpose} (held : purpose ≠ .call → c.lock.holder = some task) :
    Retreats task c (c.giveUp task job x e purpose) := by
  cases purpose with
  | greeting => exact discard_retreats job x (held (by simp)) _
  | call => exact c.finish_retreats task job _
  | shutdown => exact closeDown_retreats x (held (by simp))

end Client

end Pipe

end RpcLink
