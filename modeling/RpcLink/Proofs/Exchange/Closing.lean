import RpcLink.Proofs.Exchange.Consistency

/-!
Which channels are closed, and on which of them calls wait. Unlike the order of a switchboard, these
facts do not depend on the numbers of the calls, so they hold however many were drawn.
-/

namespace RpcLink

/-- Taking a call leaves those with another number. -/
theorem Exchange.take_snd (x : Exchange) (id : UInt64) :
    (x.take id).2 = { x with waiting := x.waiting.filter fun w => w.1 != id } := by
  cases found : x.waiting.lookup id with
  | some call => rw [take_of_lookup found]
  | none =>
      have others : ∀ w ∈ x.waiting, (w.1 != id) = true := by
        intro w member
        have different := List.lookup_eq_none_iff.mp found w member
        exact bne_iff_ne.mpr fun same => by simp [same] at different
      rw [take_of_lookup_none found, List.filter_eq_self.mpr others]

namespace Switchboard

/-- Calls may have left their channels, and nothing else has happened to the channels. -/
structure Shrinks (b b' : Switchboard) : Prop where
  length_eq : b'.exchanges.length = b.exchanges.length
  calls_length_eq : b'.calls.length = b.calls.length
  exchange_eq : ∀ x, ∃ waiting, waiting.Sublist (b.exchange x).waiting ∧
    b'.exchange x = { b.exchange x with waiting }

/-- A channel is closed, and nobody waits on it. -/
def Retired (b : Switchboard) (x : Nat) : Prop :=
  (b.exchange x).closed.isSome ∧ (b.exchange x).waiting = []

namespace Shrinks

variable {b b' b'' : Switchboard}

theorem of_exchanges_eq (same : b'.exchanges = b.exchanges)
    (count : b'.calls.length = b.calls.length) : Shrinks b b' := by
  refine ⟨by rw [same], count, fun x => ⟨_, List.Sublist.refl _, ?_⟩⟩
  rw [exchange, exchange, same]

theorem trans (first : Shrinks b b') (second : Shrinks b' b'') : Shrinks b b'' where
  length_eq := second.length_eq.trans first.length_eq
  calls_length_eq := second.calls_length_eq.trans first.calls_length_eq
  exchange_eq x := by
    obtain ⟨waiting, fewer, shape⟩ := first.exchange_eq x
    obtain ⟨waiting', fewer', shape'⟩ := second.exchange_eq x
    rw [shape] at fewer' shape'
    exact ⟨waiting', fewer'.trans fewer, shape'⟩

theorem closed_eq (shrinks : Shrinks b b') (x : Nat) :
    (b'.exchange x).closed = (b.exchange x).closed := by
  obtain ⟨_, _, shape⟩ := shrinks.exchange_eq x
  rw [shape]

theorem dropped_eq (shrinks : Shrinks b b') (x : Nat) :
    (b'.exchange x).dropped = (b.exchange x).dropped := by
  obtain ⟨_, _, shape⟩ := shrinks.exchange_eq x
  rw [shape]

theorem retired (shrinks : Shrinks b b') {x : Nat} (retired : b.Retired x) : b'.Retired x := by
  obtain ⟨waiting, fewer, shape⟩ := shrinks.exchange_eq x
  unfold Retired
  rw [shape]
  refine ⟨retired.1, ?_⟩
  rw [retired.2] at fewer
  exact List.sublist_nil.mp fewer

/-- The call under a number leaves a channel. -/
theorem take (b : Switchboard) (x : Nat) (id : UInt64) :
    Shrinks b (b.setExchange x ((b.exchange x).take id).2) := by
  rw [Exchange.take_snd]
  refine ⟨List.length_set, rfl, fun y => ?_⟩
  rw [exchange_setExchange]
  split
  · rename_i here
    rw [here.1]
    exact ⟨_, List.filter_sublist, rfl⟩
  · exact ⟨_, List.Sublist.refl _, rfl⟩

end Shrinks

/-! ### Operations that resolve calls -/

theorem shrinks_deliver (b : Switchboard) (x : Nat) (r : Response) :
    Shrinks b (b.deliver x r).2 := by
  unfold deliver
  split
  · exact (Shrinks.take b x (r.id.getD 0)).trans (.of_exchanges_eq rfl (List.length_modify ..))
  · exact .of_exchanges_eq rfl rfl

theorem shrinks_forget (b : Switchboard) (x : Nat) (id : UInt64) :
    Shrinks b (b.forget x id).2 := by
  have taken := Shrinks.take b x id
  unfold forget
  split
  · rename_i call e found
    rw [found] at taken
    exact taken.trans (.of_exchanges_eq rfl (List.length_modify ..))
  · exact .of_exchanges_eq rfl rfl

theorem shrinks_dispatch (b : Switchboard) (x : Nat) (frame : Framing.Frame) :
    Shrinks b (b.dispatch x frame) := by
  unfold dispatch
  split
  · split
    · exact b.shrinks_deliver x _
    · exact .of_exchanges_eq rfl rfl
  · exact .of_exchanges_eq rfl rfl

theorem shrinks_dispatchAll (b : Switchboard) (x : Nat) (frames : List Framing.Frame) :
    Shrinks b (b.dispatchAll x frames) := by
  induction frames generalizing b with
  | nil => exact .of_exchanges_eq rfl rfl
  | cons frame frames ih => exact (b.shrinks_dispatch x frame).trans (ih (b.dispatch x frame))

theorem shrinks_settle (b : Switchboard) (call : Nat) : Shrinks b (b.settle call) :=
  .of_exchanges_eq rfl (List.length_modify ..)

theorem shrinks_poll (b : Switchboard) (call : Nat) : Shrinks b (b.poll call).2 := by
  unfold poll
  split
  · exact .of_exchanges_eq rfl rfl
  · split
    · exact .of_exchanges_eq rfl rfl
    · exact b.shrinks_settle call

theorem shrinks_expire (b : Switchboard) (call ns : Nat) : Shrinks b (b.expire call ns).2 := by
  have polled := b.shrinks_poll call
  unfold expire
  split
  · rename_i id board asked
    rw [asked] at polled
    exact polled.trans (board.shrinks_settle call)
  · exact polled

/-! ### Registering and closing -/

section

variable (b : Switchboard) (x y : Nat)

theorem drawFor_exchanges_length : (b.drawFor x).2.exchanges.length = b.exchanges.length := by
  unfold drawFor
  split
  · exact List.length_set
  · rfl

theorem drawFor_exchange :
    ∃ ownNext, (b.drawFor x).2.exchange y = { b.exchange y with ownNext } := by
  unfold drawFor
  split
  · rw [exchange_setExchange]
    split
    · rename_i here
      rw [here.1]
      exact ⟨_, rfl⟩
    · exact ⟨_, rfl⟩
  · exact ⟨_, rfl⟩

variable (method : String) (params : Json)

theorem register_exchanges_length :
    (b.register x method params).2.exchanges.length = b.exchanges.length := by
  unfold register
  split
  · rfl
  · exact List.length_set.trans (b.drawFor_exchanges_length x)

/-- Registering on a channel lets a call wait there, and does nothing else to any channel. -/
theorem register_exchange :
    ∃ ownNext waiting, (b.register x method params).2.exchange y =
        { b.exchange y with ownNext, waiting } ∧
      (y ≠ x ∨ (b.exchange y).closed.isSome → waiting = (b.exchange y).waiting) := by
  unfold register
  split
  · exact ⟨_, _, rfl, fun _ => rfl⟩
  · rename_i opened
    rw [exchange_setExchange]
    split
    · rename_i here
      obtain ⟨own, shape⟩ := b.drawFor_exchange x x
      rw [here.1]
      refine ⟨own, (((b.drawFor x).2.exchange x).add (b.drawFor x).1
        (b.drawFor x).2.calls.length).waiting, ?_, ?_⟩
      · show Exchange.add ((b.drawFor x).2.exchange x) _ _ = _
        rw [shape]
        rfl
      · rintro (other | closed)
        · exact absurd rfl other
        · rw [opened] at closed
          cases closed
    · obtain ⟨own, shape⟩ := b.drawFor_exchange x y
      exact ⟨own, _, shape, fun _ => rfl⟩

theorem register_closed :
    ((b.register x method params).2.exchange y).closed = (b.exchange y).closed := by
  obtain ⟨_, _, shape, -⟩ := b.register_exchange x y method params
  rw [shape]

theorem register_dropped :
    ((b.register x method params).2.exchange y).dropped = (b.exchange y).dropped := by
  obtain ⟨_, _, shape, -⟩ := b.register_exchange x y method params
  rw [shape]

/-- Nobody is registered on a closed channel. -/
theorem Retired.register (retired : b.Retired y) : (b.register x method params).2.Retired y := by
  obtain ⟨_, _, shape, same⟩ := b.register_exchange x y method params
  unfold Retired
  rw [shape]
  exact ⟨retired.1, (same (.inr retired.1)).trans retired.2⟩

theorem register_calls_length_le :
    b.calls.length ≤ (b.register x method params).2.calls.length := by
  have drawn : (b.drawFor x).2.calls = b.calls := by
    unfold drawFor
    split <;> rfl
  unfold register
  split
  · exact Nat.le_refl _
  · simp [drawn]

variable (reason : String)

theorem abort_exchanges_length :
    (b.abort x reason).2.exchanges.length = b.exchanges.length := by
  cases closed : (b.exchange x).closed with
  | some first => rw [abort_of_closed closed]
  | none =>
      rw [abort_of_open closed, observe_exchanges, resolveAll_exchanges]
      exact List.length_set

theorem abort_calls_length : (b.abort x reason).2.calls.length = b.calls.length := by
  cases closed : (b.exchange x).closed with
  | some first => rw [abort_of_closed closed]
  | none =>
      rw [abort_of_open closed, observe_calls, resolveAll_length]
      rfl

theorem abort_exchange_of_ne (other : y ≠ x) :
    (b.abort x reason).2.exchange y = b.exchange y := by
  cases closed : (b.exchange x).closed with
  | some first => rw [abort_of_closed closed]
  | none =>
      rw [abort_of_open closed, observe_exchange, resolveAll_exchange, exchange_setExchange,
        if_neg fun here => other here.1]

theorem abort_dropped :
    ((b.abort x reason).2.exchange y).dropped = (b.exchange y).dropped := by
  cases closed : (b.exchange x).closed with
  | some first => rw [abort_of_closed closed]
  | none =>
      rw [abort_of_open closed, observe_exchange, resolveAll_exchange, exchange_setExchange]
      split
      · rename_i here
        rw [here.1]
      · rfl

/-- The first reason for which a channel is closed stays. -/
theorem abort_closed {first : String} (closed : (b.exchange y).closed = some first) :
    ((b.abort x reason).2.exchange y).closed = some first := by
  by_cases same : y = x
  · subst same
    rw [abort_of_closed closed]
    exact closed
  · rw [b.abort_exchange_of_ne x y reason same]
    exact closed

theorem drop_closed : ((b.drop x).exchange y).closed = (b.exchange y).closed := by
  rw [drop, resolveAll_exchange, exchange_setExchange]
  split
  · rename_i here
    rw [here.1]
  · rfl

end

/-- A channel that is closed has nobody left who waits, unless somebody waited on it although it was
closed already. -/
theorem retired_abort {b : Switchboard} {x : Nat} (inside : x < b.exchanges.length)
    (still : (b.exchange x).closed.isSome → (b.exchange x).waiting = []) (reason : String) :
    (b.abort x reason).2.Retired x := by
  cases closed : (b.exchange x).closed with
  | some first =>
      rw [abort_of_closed closed]
      exact ⟨by simp [closed], still (by simp [closed])⟩
  | none =>
      rw [abort_of_open closed]
      unfold Retired
      rw [observe_exchange, resolveAll_exchange, exchange_setExchange, if_pos ⟨rfl, inside⟩]
      exact ⟨rfl, rfl⟩

theorem Retired.abort {b : Switchboard} {x y : Nat} (retired : b.Retired y) (reason : String) :
    (b.abort x reason).2.Retired y := by
  by_cases same : y = x
  · subst same
    obtain ⟨first, closed⟩ := Option.isSome_iff_exists.mp retired.1
    rw [abort_of_closed closed]
    exact retired
  · unfold Retired
    rw [b.abort_exchange_of_ne x y reason same]
    exact retired

end Switchboard

end RpcLink
