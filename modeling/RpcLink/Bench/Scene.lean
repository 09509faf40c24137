/-!
Scenes: something on which time has an effect. Time is counted, in nanoseconds; it moves only
when nothing can happen without it, and then to the next moment at which something is due.
-/

namespace RpcLink.Bench

structure Scene (σ : Type) where
  /-- All that can happen at a time. -/
  settle : (now : Nat) → σ → σ
  /-- The first time after the given one at which something is due. -/
  next? : (now : Nat) → σ → Option Nat

/-- The first of some times that is after the given one. -/
def firstAfter (now : Nat) (times : List Nat) : Option Nat :=
  (times.filter (now < ·)).min?

/-- Let time pass until something holds or the limit is reached: whether it holds, and the time. -/
def Scene.waitFor {σ : Type} (scene : Scene σ) (holds : σ → Bool) (limit now : Nat) (s : σ) :
    Bool × Nat × σ :=
  let s := scene.settle now s
  if holds s then (true, now, s)
  else
    match scene.next? now s with
    | none => (false, max now limit, s)
    | some time =>
      if _h : now < time ∧ time ≤ limit then scene.waitFor holds limit time s
      else (false, max now limit, s)
termination_by limit - now
decreasing_by omega

end RpcLink.Bench
