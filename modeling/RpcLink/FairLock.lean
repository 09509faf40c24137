/-!
A lock that one task holds at a time. Those that have to wait get it in the order in which they
asked, and it passes from hand to hand, so that nobody can come between.
-/

namespace RpcLink

structure FairLock where
  holder : Option Nat := none
  /-- Those that wait, the next first. -/
  queue : List Nat := []
deriving DecidableEq

namespace FairLock

/-- Ask for the lock: whether it was free. If not, the task waits. -/
def acquire (l : FairLock) (task : Nat) : Bool × FairLock :=
  match l.holder with
  | none => (true, { l with holder := some task })
  | some _ => (false, { l with queue := l.queue ++ [task] })

/-- Give the lock to the next one that waits. -/
def release (l : FairLock) : FairLock :=
  match l.queue with
  | task :: rest => { holder := some task, queue := rest }
  | [] => {}

/-- A task wants the lock no more, whether it has it or waits for it. -/
def abandon (l : FairLock) (task : Nat) : FairLock :=
  if l.holder = some task then l.release
  else { l with queue := l.queue.filter (· != task) }

/-- Whether a task holds the lock. -/
def isHeldBy (l : FairLock) (task : Nat) : Bool := l.holder == some task

end FairLock

end RpcLink
