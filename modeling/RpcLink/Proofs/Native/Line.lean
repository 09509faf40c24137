import Mathlib.Data.List.Nodup
import RpcLink.Proofs.Native.Connections
import RpcLink.Proofs.Native.Phases

/-!
Who stands in line for the lock of a client. The line is the one who holds the lock and those who
wait for it, and in it are the tasks that wait for the lock or ask for a connection, each of them
once. Nobody waits for a lock that nobody holds, and the client takes itself to be connecting while
one of its tasks asks for a connection and no longer.
-/

namespace RpcLink

namespace FairLock

/-- The one who holds the lock, and those who wait for it. -/
def line (l : FairLock) : List Nat := l.holder.toList ++ l.queue

/-- Those in line are known, and nobody waits for a free lock. -/
structure Fits (l : FairLock) (inLine : Nat → Prop) : Prop where
  nodup : l.line.Nodup
  mem_iff : ∀ t, t ∈ l.line ↔ inLine t
  free : l.holder = none → l.queue = []

variable {l : FairLock} {inLine : Nat → Prop} {task : Nat}

theorem Fits.congr {P : Nat → Prop} (h : l.Fits inLine) (same : ∀ t, P t ↔ inLine t) : l.Fits P :=
  ⟨h.nodup, fun t => (h.mem_iff t).trans (same t).symm, h.free⟩

/-- Who holds the lock gives it on by leaving. -/
theorem release_eq_abandon (holds : l.holder = some task) : l.release = l.abandon task := by
  rw [abandon, if_pos holds]

theorem release_eq (l : FairLock) :
    l.release = { holder := l.queue.head?, queue := l.queue.tail } := by
  unfold release
  cases l.queue <;> rfl

theorem release_line (l : FairLock) : l.release.line = l.queue := by
  rw [release_eq, line]
  cases l.queue <;> rfl

theorem abandon_line (nodup : l.line.Nodup) (task : Nat) :
    (l.abandon task).line = l.line.filter (· != task) := by
  unfold abandon
  split
  · rename_i holds
    rw [release_line]
    simp only [line, holds, Option.toList_some, List.singleton_append, List.nodup_cons,
      List.filter_cons, bne_self_eq_false, Bool.false_eq_true, if_false] at nodup ⊢
    refine (List.filter_eq_self.mpr fun t member => ?_).symm
    rw [bne_iff_ne]
    rintro rfl
    exact nodup.1 member
  · rename_i other
    unfold line
    rw [List.filter_append]
    congr 1
    cases holder : l.holder with
    | none => rfl
    | some h =>
        have apart : h ≠ task := by
          rintro rfl
          exact other holder
        simp [apart]

/-- One who was not in line joins it. -/
theorem Fits.join (h : l.Fits inLine) (absent : ¬ inLine task) :
    (l.acquire task).2.Fits fun t => t = task ∨ inLine t := by
  have away : task ∉ l.line := fun member => absent ((h.mem_iff task).mp member)
  have members := h.mem_iff
  unfold acquire
  cases holder : l.holder with
  | none =>
      have empty := h.free holder
      refine ⟨by simp [line, empty], fun t => ?_, by simp⟩
      rw [← members t]
      simp [line, holder, empty]
  | some other =>
      have longer : line { l with holder := some other, queue := l.queue ++ [task] } =
          l.line ++ [task] := by
        simp [line, holder]
      dsimp only
      refine ⟨?_, fun t => ?_, by simp⟩
      · rw [longer, List.nodup_append_comm]
        exact List.nodup_cons.mpr ⟨away, h.nodup⟩
      · rw [longer, List.mem_append, List.mem_singleton, members t]
        exact or_comm

/-- One leaves the line, whether first in it or not. -/
theorem Fits.leave (h : l.Fits inLine) (task : Nat) :
    (l.abandon task).Fits fun t => t ≠ task ∧ inLine t := by
  refine ⟨?_, fun t => ?_, fun free => ?_⟩
  · rw [abandon_line h.nodup]
    exact h.nodup.filter _
  · rw [abandon_line h.nodup, List.mem_filter, h.mem_iff, bne_iff_ne]
    exact and_comm
  · unfold abandon at free ⊢
    split at free
    · rename_i holds
      rw [release_eq, List.head?_eq_none_iff] at free
      rw [if_pos holds, release_eq, free]
      rfl
    · rename_i other
      rw [if_neg other, h.free free]
      rfl

end FairLock

namespace Native

/-- A phase in which a task waits for the lock or has it. -/
def Phase.isInLine : Phase → Prop
  | .queued | .opening _ => True
  | _ => False

/-- A task stands in line for the lock. -/
def Client.InLine (c : Client) (t : Nat) : Prop := ∃ p, c.phase? t = some p ∧ p.isInLine

/-- Some task asks for a connection. -/
def Client.IsOpening (c : Client) : Prop := ∃ t host, c.phase? t = some (.opening host)

/-- The line for the lock is in order, and the client knows whether one of its tasks asks for a
connection. -/
structure Lined (c : Client) : Prop where
  fits : c.lock.Fits c.InLine
  connecting_iff : c.connecting = true ↔ c.IsOpening

section

variable {c c' : Client} {task link : Nat} {old new : Phase} {out : List (Nat × Json)}

theorem not_isInLine_of_rank {p : Phase} (late : 3 ≤ p.rank) : ¬ p.isInLine := by
  cases p <;> simp_all [Phase.isInLine]

theorem isSettled_of_rank {p : Phase} (late : 3 ≤ p.rank) : p.isSettled := by
  cases p <;> simp_all [Phase.isSettled]

theorem Client.inLine_iff {t : Nat} {p : Phase} (found : c.phase? t = some p) :
    c.InLine t ↔ p.isInLine := by
  unfold InLine
  rw [found]
  simp

@[simp] theorem Client.giveUp_connecting (c : Client) : c.giveUp.connecting = c.connecting := by
  unfold giveUp
  cases c.current <;> rfl

theorem Sent.connecting {job : Job} {ask : Relay.Ask} (sent : Sent task link job ask c out c') :
    c'.connecting = c.connecting := by
  cases sent with
  | refused closed => rfl
  | withdrawn registered reason => rfl
  | posted registered fits taken => rfl

namespace Goes

variable (goes : Goes c task old new c')

include goes

theorem there : c'.phase? task = some new := by
  rw [goes.after, if_pos rfl]

theorem elsewhere {t : Nat} (other : t ≠ task) : c'.phase? t = c.phase? t := by
  rw [goes.after, if_neg other]

theorem inLine_of_comes (comes : new.isInLine) (t : Nat) :
    c'.InLine t ↔ t = task ∨ c.InLine t := by
  by_cases same : t = task
  · subst same
    simp [Client.inLine_iff goes.there, comes]
  · simp [Client.InLine, goes.elsewhere same, same]

theorem inLine_of_leaves (leaves : ¬ new.isInLine) (t : Nat) :
    c'.InLine t ↔ t ≠ task ∧ c.InLine t := by
  by_cases same : t = task
  · subst same
    simp [Client.inLine_iff goes.there, leaves]
  · simp [Client.InLine, goes.elsewhere same, same]

/-- A task that never stood in line leaves it as it is. -/
theorem inLine_of_outside (was : ¬ old.isInLine) (leaves : ¬ new.isInLine) (t : Nat) :
    c'.InLine t ↔ c.InLine t := by
  rw [goes.inLine_of_leaves leaves]
  refine and_iff_right_of_imp fun inLine => ?_
  rintro rfl
  exact was ((Client.inLine_iff goes.before).mp inLine)

/-- Whether a connection is asked for does not depend on a task that does not ask. -/
theorem isOpening_iff (was : old.isSettled) (settled : new.isSettled) :
    c'.IsOpening ↔ c.IsOpening := by
  have apart : ∀ {d : Client} {p : Phase} {t host}, d.phase? task = some p → p.isSettled →
      d.phase? t = some (.opening host) → t ≠ task := by
    rintro d p t host found settled asks rfl
    rw [found] at asks
    cases asks
    exact settled
  constructor
  · rintro ⟨t, host, asks⟩
    rw [goes.elsewhere (apart goes.there settled asks)] at asks
    exact ⟨t, host, asks⟩
  · rintro ⟨t, host, asks⟩
    rw [← goes.elsewhere (apart goes.before was asks)] at asks
    exact ⟨t, host, asks⟩

/-- When the one that asks is done with it, nobody asks. -/
theorem not_isOpening (h : Linked c) {host : String} (was : old = .opening host)
    (settled : new.isSettled) : ¬ c'.IsOpening := by
  rintro ⟨t, other, asks⟩
  have first := goes.before
  rw [was] at first
  by_cases same : t = task
  · rw [same, goes.there] at asks
    cases asks
    exact settled
  · rw [goes.elsewhere same] at asks
    exact same (h.eq_of_opening first asks)

end Goes

namespace Lined

/-- A task that never stood in line goes on. -/
theorem outside (h : Lined c) (goes : Goes c task old new c') (was : ¬ old.isInLine ∧ old.isSettled)
    (is : ¬ new.isInLine ∧ new.isSettled) (lock : c'.lock = c.lock)
    (flag : c'.connecting = c.connecting) : Lined c' where
  fits := lock ▸ h.fits.congr (goes.inLine_of_outside was.1 is.1)
  connecting_iff := by rw [flag, h.connecting_iff, goes.isOpening_iff was.2 is.2]

/-- The lock as it is when a task goes on with it. -/
theorem fits_of_grants (h : Lined c) {phase : Phase} {lock : FairLock}
    (found : c.phase? task = some phase) (grants : Grants c task phase lock) :
    lock.Fits fun t => t = task ∨ c.InLine t := by
  cases grants with
  | free free =>
      have absent : ¬ c.InLine task := by simp [Client.inLine_iff found, Phase.isInLine]
      have joined := h.fits.join absent
      rw [FairLock.acquire, free] at joined
      exact joined
  | turn held =>
      refine h.fits.congr fun t => or_iff_right_of_imp ?_
      rintro rfl
      rw [Client.inLine_iff found]
      trivial

/-- A task that got the lock gives it on without asking for a connection. -/
theorem passes (h : Lined c) {lock : FairLock} (goes : Goes c task old new c')
    (grants : Grants c task old lock) (late : 3 ≤ new.rank) (given : c'.lock = lock.release)
    (flag : c'.connecting = c.connecting) : Lined c' where
  fits := by
    rw [given, FairLock.release_eq_abandon grants.holder]
    refine ((h.fits_of_grants goes.before grants).leave task).congr fun t => ?_
    rw [goes.inLine_of_leaves (not_isInLine_of_rank late)]
    exact and_congr_right fun other => (or_iff_right other).symm
  connecting_iff := by
    have was : old.isSettled := by cases grants <;> trivial
    rw [flag, h.connecting_iff, goes.isOpening_iff was (isSettled_of_rank late)]

/-- The task that asks for a connection is done with it and gives the lock on. -/
theorem concludes (h : Lined c) (linked : Linked c) {host : String}
    (goes : Goes c task (.opening host) new c') (late : 3 ≤ new.rank)
    (given : c'.lock = c.lock.release) (flag : c'.connecting = false) : Lined c' where
  fits := by
    rw [given, FairLock.release_eq_abandon (linked.opening goes.before).1]
    exact (h.fits.leave task).congr (goes.inLine_of_leaves (not_isInLine_of_rank late))
  connecting_iff := by
    simp [flag, goes.not_isOpening linked rfl (isSettled_of_rank late)]

/-- A task lets go of what it holds and waits for, wherever it is. -/
theorem letGo (h : Lined c) (linked : Linked c) {t : Task} (found : c.tasks[task]? = some t)
    (waits : t.isOver = false) (last : new.rank = 4) :
    Lined ((c.letGo task).setPhase task new) := by
  have goes : Goes c task t.phase new ((c.letGo task).setPhase task new) :=
    Client.letGo_goes found waits last
  have late : 3 ≤ new.rank := by omega
  have is := And.intro (not_isInLine_of_rank late) (isSettled_of_rank late)
  obtain ⟨job, phase⟩ := t
  dsimp only at goes
  unfold Client.letGo at goes ⊢
  rw [found] at goes ⊢
  cases phase with
  | queued =>
      refine ⟨(h.fits.leave task).congr (goes.inLine_of_leaves is.1), ?_⟩
      exact h.connecting_iff.trans (goes.isOpening_iff trivial is.2).symm
  | opening host =>
      exact h.concludes linked goes late
        (FairLock.release_eq_abandon (linked.opening goes.before).1).symm rfl
  | fresh => exact h.outside goes ⟨id, trivial⟩ is rfl rfl
  | awaiting call => exact h.outside goes ⟨id, trivial⟩ is rfl rfl
  | done outcome => cases waits
  | cancelled => cases waits

theorem move (h : Lined c) (linked : Linked c) (move : Move task c out c') : Lined c' := by
  cases move with
  | refuse found unread =>
      exact h.outside (goes_setPhase rfl (Client.phase?_of_found found) (by simp)) ⟨id, trivial⟩
        ⟨id, trivial⟩ rfl rfl
  | queue found held =>
      have goes := goes_queued found { c.lock with queue := c.lock.queue ++ [task] }
      have absent : ¬ c.InLine task := by simp [Client.inLine_iff goes.before, Phase.isInLine]
      have joined := h.fits.join absent
      simp only [FairLock.acquire, held] at joined
      rw [← held] at joined
      refine ⟨joined.congr (goes.inLine_of_comes trivial), ?_⟩
      exact h.connecting_iff.trans (goes.isOpening_iff trivial trivial).symm
  | send found asks live sent =>
      obtain ⟨new, late, goes⟩ := sent.goes (Client.phase?_of_found found) (by simp) rfl
      exact h.outside goes ⟨id, trivial⟩ ⟨not_isInLine_of_rank late, isSettled_of_rank late⟩
        sent.lock.1 sent.connecting
  | sendLocked found asks grants live sent =>
      have early := Nat.lt_succ_of_lt grants.rank_lt
      obtain ⟨new, late, goes⟩ := sent.goes (Client.phase?_of_found found) early rfl
      exact h.passes goes grants late sent.lock.1 sent.connecting
  | dial found asks grants dead =>
      have goes := grants.goes found
      refine ⟨?_, iff_of_true rfl ⟨task, _, goes.there⟩⟩
      exact (h.fits_of_grants goes.before grants).congr (goes.inLine_of_comes trivial)
  | fail found asks =>
      exact h.concludes linked (goes_setPhase rfl (Client.phase?_of_found found) (by simp))
        (by simp) rfl rfl
  | connect found asks sent =>
      obtain ⟨new, late, goes⟩ := sent.goes (Client.phase?_of_found found) (by simp) rfl
      exact h.concludes linked goes late sent.lock.1 sent.connecting
  | disconnect found asks grants =>
      have early := Nat.lt_of_lt_of_le grants.rank_lt (Nat.le_add_right 2 2)
      exact h.passes (goes_setPhase c.giveUp_tasks (Client.phase?_of_found found) early) grants
        (by simp) rfl c.giveUp_connecting
  | answer found told =>
      exact h.outside (goes_setPhase rfl (Client.phase?_of_found found) (by simp)) ⟨id, trivial⟩
        ⟨id, trivial⟩ rfl rfl
  | expire found waits limited limit => exact h.letGo linked found waits rfl

/-! ### Events -/

theorem spawn (h : Lined c) (job : Job) : Lined (c.spawn job) where
  fits := h.fits.congr fun t => by
    unfold Client.InLine
    simp only [Client.spawn_phase?]
    constructor
    · rintro ⟨p, found | ⟨-, rfl⟩, inLine⟩
      · exact ⟨p, found, inLine⟩
      · exact inLine.elim
    · rintro ⟨p, found, inLine⟩
      exact ⟨p, .inl found, inLine⟩
  connecting_iff := by
    refine h.connecting_iff.trans ?_
    simp [Client.IsOpening, Client.spawn_phase?]

theorem quiet (h : Lined c) (quiet : Quiet c c') : Lined c' := by
  have same := Client.phase?_of_tasks_eq quiet.tasks
  refine ⟨?_, ?_⟩
  · rw [quiet.lock]
    exact h.fits.congr fun t => by rw [Client.InLine, Client.InLine, same]
  · rw [quiet.connecting, h.connecting_iff]
    simp only [Client.IsOpening, same]

theorem quietly (h : Lined c) (linked : Linked c) (quietly : Quietly c c') : Lined c' := by
  cases quietly with
  | spawned job => exact h.spawn job
  | cancelled found waits => exact h.letGo linked found waits rfl
  | quiet quiet => exact h.quiet quiet

theorem happen (h : Lined c) (linked : Linked c) (e : Event) : Lined (c.happen e) := by
  have both := Client.happen_keeps (P := fun a => Linked a ∧ Lined a)
    (fun holds move => ⟨holds.1.move move, holds.2.move holds.1 move⟩) ⟨linked, h⟩ e
    fun quietly => ⟨linked.happen e, h.quietly linked quietly⟩
  exact both.2

theorem run (h : Lined c) (linked : Linked c) (es : List Event) : Lined (c.run es) := by
  induction es generalizing c with
  | nil => exact h
  | cons e es ih => exact ih (h.happen linked e) (linked.happen e)

end Lined

theorem lined_fresh (config : Config) (settings : Settings) :
    Lined (Client.fresh config settings) where
  fits := ⟨List.nodup_nil, by simp [FairLock.line, Client.InLine, Client.phase?, Client.fresh],
    fun _ => rfl⟩
  connecting_iff := by simp [Client.IsOpening, Client.phase?, Client.fresh]

end

end Native

end RpcLink
