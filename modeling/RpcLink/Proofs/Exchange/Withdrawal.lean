import RpcLink.Proofs.Exchange.Closed
import RpcLink.Proofs.Exchange.Numbering
import RpcLink.Proofs.Exchange.Rejections

/-!
Calls that are registered and taken back at once. Nothing is left of one but its place among the
calls, unless it drew the number of a call that still waits, for which all numbers must have been
drawn in between.
-/

namespace RpcLink.Switchboard

/-- The channels are as they were, with those that wait on them, and so are all calls; further calls
may have come and were taken back. -/
structure Unmoved (b b' : Switchboard) : Prop where
  waiting : ∀ x, (b'.exchange x).waiting = (b.exchange x).waiting
  closed : ∀ x, (b'.exchange x).closed = (b.exchange x).closed
  calls : ∃ own, b'.calls = b.calls ++ own ∧ ∀ d ∈ own, d.status = .orphaned
  log : b'.log = b.log

namespace Unmoved

variable {b b' b'' : Switchboard}

theorem refl (b : Switchboard) : Unmoved b b :=
  ⟨fun _ => rfl, fun _ => rfl, ⟨[], by simp⟩, rfl⟩

theorem trans (first : Unmoved b b') (second : Unmoved b' b'') : Unmoved b b'' where
  waiting x := (second.waiting x).trans (first.waiting x)
  closed x := (second.closed x).trans (first.closed x)
  calls := by
    obtain ⟨own, calls, orphaned⟩ := first.calls
    obtain ⟨own', calls', orphaned'⟩ := second.calls
    refine ⟨own ++ own', by rw [calls', calls, List.append_assoc], fun d member => ?_⟩
    rcases List.mem_append.mp member with one | other
    · exact orphaned d one
    · exact orphaned' d other
  log := second.log.trans first.log

theorem openExchange (b : Switchboard) : Unmoved b b.openExchange where
  waiting x := by
    rw [exchange_openExchange]
    split
    · rename_i last
      simp [exchange, last]
    · rfl
  closed x := by
    rw [exchange_openExchange]
    split
    · rename_i last
      simp [exchange, last]
    · rfl
  calls := ⟨[], by simp [Switchboard.openExchange]⟩
  log := rfl

/-- Whoever waits was there before. -/
theorem older (unmoved : Unmoved b b') (placed : b.Placed) {x k : Nat} {id : UInt64}
    (waits : (id, k) ∈ (b'.exchange x).waiting) : k < b.calls.length := by
  rw [unmoved.waiting] at waits
  exact placed.lt_of_waits waits

end Unmoved

variable {b board : Switchboard} {x call : Nat} {method : String} {params : Json}
  {request : Request}

theorem request_of_registered
    (registered : b.register x method params = (.ok (request, call), board)) :
    request = { id := b.nextOf x, method, params } := by
  have number := register_number b x method params registered
  unfold register at registered
  split at registered
  · cases registered
  · cases registered
    rw [← number]

/-- A further channel draws the number that the shared sequence gives next. -/
theorem nextOf_openExchange (b : Switchboard) :
    b.openExchange.nextOf b.exchanges.length = b.nextOf b.exchanges.length := by
  simp [nextOf, exchange, Switchboard.openExchange]

/-- Those that wait on a channel when the one under a number is taken back. -/
theorem forget_waiting (b : Switchboard) {x : Nat} (inside : x < b.exchanges.length) (id : UInt64)
    (y : Nat) : ((b.forget x id).2.exchange y).waiting =
      if y = x then (b.exchange x).waiting.filter (fun w => w.1 != id)
      else (b.exchange y).waiting := by
  cases found : (b.exchange x).waiting.lookup id with
  | some other =>
      rw [forget_of_lookup found, resolveAll_exchange, exchange_setExchange]
      by_cases here : y = x
      · rw [if_pos ⟨here, inside⟩, if_pos here]
      · rw [if_neg fun both => here both.1, if_neg here]
  | none =>
      have others : (b.exchange x).waiting =
          (b.exchange x).waiting.filter fun w => w.1 != id := by
        have taken := congrArg Exchange.waiting ((b.exchange x).take_snd id)
        rwa [Exchange.take_of_lookup_none found] at taken
      have same : (b.forget x id).2 = b := by
        simp only [forget, Exchange.take_of_lookup_none found]
      rw [same, ← others]
      split
      · rename_i here
        rw [here]
      · rfl

/-- A call that is registered and taken back leaves everything as it was. -/
theorem Unmoved.withdraw (h : b.Truthful) (inside : x < b.exchanges.length)
    (unused : ∀ k, (b.nextOf x, k) ∉ (b.exchange x).waiting)
    (registered : b.register x method params = (.ok (request, call), board)) :
    Unmoved b (board.forget x request.id).2 where
  waiting y := by
    have number := register_number b x method params registered
    have count := b.register_exchanges_length x method params
    rw [registered] at count
    obtain ⟨-, -, -, waiting⟩ := of_registered registered
    have others : ∀ w ∈ (b.exchange x).waiting, (w.1 != request.id) = true := by
      rintro ⟨id, k⟩ member
      refine bne_iff_ne.mpr ?_
      rintro rfl
      exact unused k (number ▸ member)
    rw [board.forget_waiting (by rw [count]; exact inside), waiting, waiting]
    by_cases here : y = x
    · rw [if_pos here, if_pos ⟨rfl, inside⟩, here]
      simp [List.filter_append, List.filter_eq_self.mpr others]
    · rw [if_neg here, if_neg fun both => here both.1]
  closed y := by
    rw [(board.shrinks_forget x request.id).closed_eq]
    have same := b.register_closed x y method params
    rwa [registered] at same
  calls := ⟨_, (h.withdraw inside registered).2, by simp⟩
  log := by
    rw [forget_log]
    have same := b.register_log x method params
    rwa [registered] at same

/-- As long as there are numbers for the calls, no call waits under the next one. -/
theorem Consistent.unused {n : Nat} (h : b.Consistent n) (few : n + 1 < 2 ^ 64) (x k : Nat) :
    (b.nextOf x, k) ∉ (b.exchange x).waiting := by
  intro waits
  have next : b.nextOf x = b.next := by rw [nextOf, h.shared]; rfl
  obtain ⟨c, found, -, number, -⟩ := h.mem_waiting.mp waits
  have below := h.id_lt_next few (List.mem_of_getElem? found)
  rw [number, next] at below
  exact UInt64.lt_irrefl _ below

end RpcLink.Switchboard
