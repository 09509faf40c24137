import RpcLink.Proofs.Exchange.Closing

/-!
Runs of a switchboard: any number of channels that share one sequence of numbers, and anything
that can be done to them and to their calls, in any order. A run keeps the switchboard in order as
long as it draws fewer numbers than there are.
-/

namespace RpcLink.Switchboard

/-- What can be done to channels that share one sequence of numbers, and to their calls. -/
inductive Action where
  | openExchange
  /-- A number is drawn and not used here. -/
  | draw
  | register (x : Nat) (method : String) (params : Json)
  | deliver (x : Nat) (response : Response)
  | abort (x : Nat) (reason : String)
  | forget (x : Nat) (id : UInt64)
  | drop (x : Nat)
  | poll (call : Nat)
  | expire (call ns : Nat)
  | forsake (call : Nat)

/-- The channel to which an action is done. -/
def Action.channel? : Action → Option Nat
  | .register x .. | .deliver x _ | .abort x _ | .forget x _ | .drop x => some x
  | _ => none

def perform (b : Switchboard) : Action → Switchboard
  | .openExchange => b.openExchange
  | .draw => b.draw.2
  | .register x method params => (b.register x method params).2
  | .deliver x response => (b.deliver x response).2
  | .abort x reason => (b.abort x reason).2
  | .forget x id => (b.forget x id).2
  | .drop x => b.drop x
  | .poll call => (b.poll call).2
  | .expire call ns => (b.expire call ns).2
  | .forsake call => (b.forsake call).2

/-- An action is done, unless its channel is gone: then nobody is left who could do it. -/
def act (b : Switchboard) (a : Action) : Switchboard :=
  if a.channel?.any fun x => (b.exchange x).dropped then b else b.perform a

def run (b : Switchboard) (as : List Action) : Switchboard := as.foldl act b

/-- How many numbers an action draws. -/
def draws (b : Switchboard) : Action → Nat
  | .draw => 1
  | .register x _ _ =>
    if (b.exchange x).dropped = false ∧ (b.exchange x).closed = none then 1 else 0
  | _ => 0

/-- How many numbers are drawn in a run. -/
def drawn (b : Switchboard) : List Action → Nat
  | [] => 0
  | a :: as => b.draws a + (b.act a).drawn as

theorem run_append (b : Switchboard) (as bs : List Action) :
    b.run (as ++ bs) = (b.run as).run bs := List.foldl_append

theorem drawn_append (b : Switchboard) (as bs : List Action) :
    b.drawn (as ++ bs) = b.drawn as + (b.run as).drawn bs := by
  induction as generalizing b with
  | nil => exact (Nat.zero_add _).symm
  | cons a as ih =>
      show b.draws a + (b.act a).drawn (as ++ bs) = _
      rw [ih, ← Nat.add_assoc]
      rfl

/-- A run that draws few numbers draws few with its first action. -/
theorem drawn_cons_lt {n : Nat} {b : Switchboard} {a : Action} {as : List Action}
    (few : n + b.drawn (a :: as) < 2 ^ 64) :
    n + b.draws a < 2 ^ 64 ∧ n + b.draws a + (b.act a).drawn as < 2 ^ 64 := by
  have total : b.drawn (a :: as) = b.draws a + (b.act a).drawn as := rfl
  omega

theorem act_of_there {b : Switchboard} {a : Action} {x : Nat} (place : a.channel? = some x)
    (there : (b.exchange x).dropped = false) : b.act a = b.perform a := by
  simp [act, place, there]

theorem act_of_gone {b : Switchboard} {a : Action} {x : Nat} (place : a.channel? = some x)
    (gone : (b.exchange x).dropped = true) : b.act a = b := by
  simp [act, place, gone]

/-! ### Those who await calls -/

theorem settle_getElem? (b : Switchboard) (call k : Nat) :
    (b.settle call).calls[k]? =
      b.calls[k]?.map fun c => { c with settled := c.settled || k == call } := by
  unfold settle
  rw [List.getElem?_modify]
  by_cases same : call = k
  · subst same
    cases b.calls[call]? <;> simp
  · have other : (k == call) = false := beq_false_of_ne (Ne.symm same)
    simp [same, other]

theorem poll_board (b : Switchboard) (call : Nat) :
    (b.poll call).2 = b ∨ (b.poll call).2 = b.settle call := by
  unfold poll
  split
  · exact .inl rfl
  · split
    · exact .inl rfl
    · exact .inr rfl

theorem expire_board (b : Switchboard) (call ns : Nat) :
    (b.expire call ns).2 = b ∨ (b.expire call ns).2 = b.settle call := by
  have polled : ∀ id board, b.poll call = (.waiting id, board) → board = b := by
    intro id board
    unfold poll
    split
    · simp
    · split
      · rintro ⟨⟩
        rfl
      · simp
  unfold expire
  split
  · rename_i id board asked
    rw [polled id board asked]
    exact .inr rfl
  · exact b.poll_board call

namespace Consistent

variable {n : Nat} {b : Switchboard}

theorem settle (h : b.Consistent n) (call : Nat) : (b.settle call).Consistent n where
  next_eq := h.next_eq
  shared := h.shared
  id_le := by
    intro c member
    obtain ⟨k, found⟩ := List.mem_iff_getElem?.mp member
    rw [settle_getElem?, Option.map_eq_some_iff] at found
    obtain ⟨d, before, rfl⟩ := found
    exact h.id_le d (List.mem_of_getElem? before)
  increasing := by
    have sameIds : (b.settle call).calls.map Call.id = b.calls.map Call.id := by
      apply List.ext_getElem?
      intro k
      rw [List.getElem?_map, List.getElem?_map, settle_getElem?, Option.map_map]
      rfl
    have := List.pairwise_map.mpr h.increasing
    rw [← sameIds] at this
    exact List.pairwise_map.mp this
  mem_waiting := by
    intro x id k
    show (id, k) ∈ (b.exchange x).waiting ↔ _
    rw [h.mem_waiting, settle_getElem?]
    cases b.calls[k]? <;> simp
  closed_waiting := h.closed_waiting
  dropped_waiting := h.dropped_waiting

theorem poll (h : b.Consistent n) (call : Nat) : (b.poll call).2.Consistent n := by
  rcases b.poll_board call with same | settled
  · rw [same]
    exact h
  · rw [settled]
    exact h.settle call

theorem expire (h : b.Consistent n) (call ns : Nat) : (b.expire call ns).2.Consistent n := by
  rcases b.expire_board call ns with same | settled
  · rw [same]
    exact h
  · rw [settled]
    exact h.settle call

/-! ### Runs -/

theorem act (h : b.Consistent n) {a : Action} (few : n + b.draws a < 2 ^ 64) :
    (b.act a).Consistent (n + b.draws a) := by
  cases a with
  | openExchange => exact h.openExchange
  | draw => exact h.draw
  | register x method params =>
      cases gone : (b.exchange x).dropped with
      | true =>
          rw [act_of_gone rfl gone]
          simpa [draws, gone] using h
      | false =>
          rw [act_of_there rfl gone]
          cases closed : (b.exchange x).closed with
          | some reason => simpa [draws, perform, closed, register_of_closed closed] using h
          | none =>
              simp only [draws, gone, closed, and_self, if_true] at few ⊢
              exact h.register few gone closed method params
  | deliver x response =>
      cases gone : (b.exchange x).dropped with
      | true => rw [act_of_gone rfl gone]; exact h
      | false => rw [act_of_there rfl gone]; exact h.deliver x response
  | abort x reason =>
      cases gone : (b.exchange x).dropped with
      | true => rw [act_of_gone rfl gone]; exact h
      | false => rw [act_of_there rfl gone]; exact h.abort (lt_of_not_dropped gone) reason
  | forget x id =>
      cases gone : (b.exchange x).dropped with
      | true => rw [act_of_gone rfl gone]; exact h
      | false => rw [act_of_there rfl gone]; exact h.forget x id
  | drop x =>
      cases gone : (b.exchange x).dropped with
      | true => rw [act_of_gone rfl gone]; exact h
      | false => rw [act_of_there rfl gone]; exact h.drop (lt_of_not_dropped gone)
  | poll call => exact h.poll call
  | expire call ns => exact h.expire call ns
  | forsake call => exact h.settle call

/-- A run that draws fewer numbers than there are keeps the switchboard in order. -/
theorem run (h : b.Consistent n) {as : List Action} (few : n + b.drawn as < 2 ^ 64) :
    (b.run as).Consistent (n + b.drawn as) := by
  induction as generalizing n b with
  | nil => exact h
  | cons a as ih =>
      obtain ⟨first, rest⟩ := drawn_cons_lt few
      have total : n + b.drawn (a :: as) = n + b.draws a + (b.act a).drawn as :=
        (Nat.add_assoc _ _ _).symm
      rw [total]
      exact ih (h.act first) rest

end Consistent

/-! ### Closed channels -/

section Closed

variable {b : Switchboard} {x : Nat} {reason : String}

/-- The reason for which a channel was closed stays the same. -/
theorem perform_closed (closed : (b.exchange x).closed = some reason) (a : Action) :
    ((b.perform a).exchange x).closed = some reason := by
  cases a with
  | openExchange =>
      show (b.openExchange.exchange x).closed = some reason
      rw [exchange_openExchange]
      split
      · rename_i beyond
        simp [exchange, beyond] at closed
      · exact closed
  | draw => exact closed
  | register y method params => exact (b.register_closed y x method params).trans closed
  | deliver y r => exact ((b.shrinks_deliver y r).closed_eq x).trans closed
  | abort y later => exact b.abort_closed y x later closed
  | forget y id => exact ((b.shrinks_forget y id).closed_eq x).trans closed
  | drop y => exact (b.drop_closed y x).trans closed
  | poll call => exact ((b.shrinks_poll call).closed_eq x).trans closed
  | expire call ns => exact ((b.shrinks_expire call ns).closed_eq x).trans closed
  | forsake call => exact closed

theorem run_closed (closed : (b.exchange x).closed = some reason) (as : List Action) :
    ((b.run as).exchange x).closed = some reason := by
  induction as generalizing b with
  | nil => exact closed
  | cons a as ih =>
      refine ih ?_
      unfold act
      split
      · exact closed
      · exact perform_closed closed a

end Closed

end RpcLink.Switchboard
