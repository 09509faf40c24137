import RpcLink.Proofs.Exchange.Placement
import RpcLink.Proofs.Exchange.Resolution

/-!
How calls leave their channels. A call stays where it waits until an action takes it off: its
response, the end of its channel, or that its number is forgotten or drawn anew. What each of them
leaves behind is said here in full, and that a call which has left never waits again.
-/

namespace RpcLink.Switchboard

/-- An action takes the call under a number off a channel. -/
inductive Removes (b : Switchboard) (x : Nat) (id : UInt64) : Action → Prop where
  | response {r : Response} (number : r.id = some id) : Removes b x id (.deliver x r)
  | abort {reason : String} : Removes b x id (.abort x reason)
  | forget : Removes b x id (.forget x id)
  | drop : Removes b x id (.drop x)
  /-- The numbers began anew, and the next call there has the same one. -/
  | register {method : String} {params : Json} {request : Request} {call : Nat}
      (registered : (b.register x method params).1 = .ok (request, call)) (same : request.id = id) :
      Removes b x id (.register x method params)

/-- A call is taken off its channel, with what became of it. All else about the channels and the
calls is as it was. -/
structure TakenOff (b : Switchboard) (call : Nat) (status : CallStatus Response)
    (b' : Switchboard) : Prop where
  status : b'.status? call = some status
  exchange : ∀ y, b'.exchange y =
    { b.exchange y with waiting := (b.exchange y).waiting.filter fun w => w.2 != call }
  others : ∀ k, k ≠ call → b'.calls[k]? = b.calls[k]?
  log : b'.log = b.log

/-- A channel is closed for a reason, with all calls that waited there, and that is observed. All
else about the channels and the calls is as it was. -/
structure Emptied (b : Switchboard) (x : Nat) (reason : String) (b' : Switchboard) : Prop where
  statuses : ∀ id k, (id, k) ∈ (b.exchange x).waiting → b'.status? k = some (.rejected reason)
  exchange : ∀ y, b'.exchange y =
    if y = x then { b.exchange x with closed := some reason, waiting := [] } else b.exchange y
  others : ∀ k, (∀ id, (id, k) ∉ (b.exchange x).waiting) → b'.calls[k]? = b.calls[k]?
  log : b'.log = b.log ++ [.closed reason (b.exchange x).waiting.length]

variable {b : Switchboard} {x k : Nat} {id : UInt64}

/-! ### Taking a call off its channel -/

theorem lookup_of_mem (waits : (id, k) ∈ (b.exchange x).waiting) :
    ∃ j, (b.exchange x).waiting.lookup id = some j := by
  cases found : (b.exchange x).waiting.lookup id with
  | some j => exact ⟨j, rfl⟩
  | none => exact absurd waits (Exchange.not_mem_of_lookup_none found k)

/-- Taking a call off a channel by its number takes off that call. -/
theorem Placed.takenOff (h : b.Placed) (waits : (id, k) ∈ (b.exchange x).waiting)
    (status : CallStatus Response) :
    TakenOff b k status ((b.setExchange x { b.exchange x with
      waiting := (b.exchange x).waiting.filter fun w => w.1 != id }).resolveAll [k] status) where
  status := by
    obtain ⟨c, found, -⟩ := h.call_of_mem waits
    rw [status?, resolveAll_getElem?, setExchange_calls, found, Option.map_some, Option.map_some,
      if_pos (List.mem_singleton.mpr rfl)]
  exchange y := by
    rw [resolveAll_exchange, exchange_setExchange]
    by_cases here : y = x
    · subst here
      have numbered : ∀ w ∈ (b.exchange y).waiting, (w.1 != id) = (w.2 != k) := by
        rintro ⟨i, j⟩ member
        rw [Bool.eq_iff_iff, bne_iff_ne, bne_iff_ne]
        refine not_congr ⟨?_, ?_⟩
        · rintro rfl
          exact Option.some.inj ((h.lookup_eq member).symm.trans (h.lookup_eq waits))
        · rintro rfl
          exact (h.place_eq waits member).2
      rw [if_pos ⟨rfl, lt_of_mem_waiting waits⟩, List.filter_congr numbered]
    · have elsewhere : ∀ w ∈ (b.exchange y).waiting, (w.2 != k) = true := by
        rintro ⟨i, j⟩ member
        rw [bne_iff_ne]
        rintro rfl
        exact here (h.place_eq waits member).1
      rw [if_neg fun both => here both.1, List.filter_eq_self.mpr elsewhere]
  others j other := by
    have spared : j ∉ [k] := fun member => other (List.mem_singleton.mp member)
    rw [resolveAll_getElem?, setExchange_calls]
    simp only [if_neg spared, Option.map_id']
  log := by
    rw [resolveAll_eq]
    rfl

/-- Taking a call off a channel leaves those with another number. -/
theorem mem_setExchange_take {y : Nat} {id' : UInt64} (waits : (id, k) ∈ (b.exchange x).waiting)
    (other : x = y → id' ≠ id) :
    (id, k) ∈ ((b.setExchange y { b.exchange y with
      waiting := (b.exchange y).waiting.filter fun w => w.1 != id' }).exchange x).waiting := by
  rw [exchange_setExchange]
  split
  · rename_i here
    obtain ⟨rfl, -⟩ := here
    exact List.mem_filter.mpr ⟨waits, bne_iff_ne.mpr (Ne.symm (other rfl))⟩
  · exact waits

/-- The response to a call that waits finds it and takes it off its channel. -/
theorem deliver_of_waits (placed : b.Placed) (waits : (id, k) ∈ (b.exchange x).waiting)
    {r : Response} (number : r.id = some id) :
    (b.deliver x r).1 = true ∧ TakenOff b k (.answered r) (b.deliver x r).2 := by
  rw [deliver_of_lookup number (placed.lookup_eq waits)]
  exact ⟨rfl, placed.takenOff waits (.answered r)⟩

/-- Forgetting the number of a call that waits takes it off its channel. -/
theorem forget_of_waits (placed : b.Placed) (waits : (id, k) ∈ (b.exchange x).waiting) :
    (b.forget x id).1 = true ∧ TakenOff b k .orphaned (b.forget x id).2 := by
  rw [forget_of_lookup (placed.lookup_eq waits)]
  exact ⟨rfl, placed.takenOff waits .orphaned⟩

/-- Closing a channel on which calls wait counts them, and rejects each. -/
theorem abort_of_waits (placed : b.Placed) (waits : (id, k) ∈ (b.exchange x).waiting)
    (reason : String) :
    (b.abort x reason).1 = (b.exchange x).waiting.length ∧
      Emptied b x reason (b.abort x reason).2 := by
  have isOpen : (b.exchange x).closed = none := by
    cases closed : (b.exchange x).closed with
    | none => rfl
    | some first =>
        rw [placed.closed_waiting (by rw [closed]; rfl)] at waits
        cases waits
  rw [abort_of_open isOpen]
  refine ⟨rfl, ?_⟩
  constructor
  case statuses =>
    intro i j member
    obtain ⟨c, found, -⟩ := placed.call_of_mem member
    rw [status?, observe_calls, resolveAll_getElem?, setExchange_calls, found, Option.map_some,
      Option.map_some, if_pos (List.mem_map_of_mem member)]
  case exchange =>
    intro y
    rw [observe_exchange, resolveAll_exchange, exchange_setExchange]
    simp only [lt_of_mem_waiting waits, and_true]
  case others =>
    intro j absent
    have spared : j ∉ (b.exchange x).waiting.map Prod.snd := by
      intro member
      obtain ⟨⟨i, _⟩, waited, rfl⟩ := List.mem_map.mp member
      exact absent i waited
    rw [observe_calls, resolveAll_getElem?, setExchange_calls]
    simp only [if_neg spared, Option.map_id']
  case log =>
    rw [resolveAll_eq]
    rfl

/-! ### A call stays where it waits -/

theorem register_waits (waits : (id, k) ∈ (b.exchange x).waiting) (y : Nat) (method : String)
    (params : Json) : (id, k) ∈ ((b.register y method params).2.exchange x).waiting ∨
      Removes b x id (.register y method params) := by
  cases closed : (b.exchange y).closed with
  | some reason =>
      rw [register_of_closed closed]
      exact .inl waits
  | none =>
      obtain ⟨id', registered, -, waiting⟩ := b.register_waiting method params closed
      rw [waiting]
      split
      · rename_i here
        by_cases again : id' = id
        · obtain ⟨rfl, -⟩ := here
          exact .inr (.register registered again)
        · left
          refine List.mem_append_left _ (List.mem_filter.mpr ⟨waits, bne_iff_ne.mpr ?_⟩)
          exact fun same => again same.symm
      · exact .inl waits

theorem deliver_waits (waits : (id, k) ∈ (b.exchange x).waiting) (y : Nat) (r : Response) :
    (id, k) ∈ ((b.deliver y r).2.exchange x).waiting ∨ Removes b x id (.deliver y r) := by
  by_cases named : x = y ∧ r.id = some id
  · obtain ⟨rfl, number⟩ := named
    exact .inr (.response number)
  · left
    by_cases found : ∃ i j, r.id = some i ∧ (b.exchange y).waiting.lookup i = some j
    · obtain ⟨i, j, number, found⟩ := found
      rw [deliver_of_lookup number found, resolveAll_exchange]
      refine mem_setExchange_take waits fun here same => named ⟨here, ?_⟩
      rw [number, same]
    · rw [deliver_of_not_mem fun i j number member => ?_]
      · exact waits
      · obtain ⟨j', found'⟩ := lookup_of_mem member
        exact found ⟨i, j', number, found'⟩

theorem forget_waits (waits : (id, k) ∈ (b.exchange x).waiting) (y : Nat) (i : UInt64) :
    (id, k) ∈ ((b.forget y i).2.exchange x).waiting ∨ Removes b x id (.forget y i) := by
  by_cases named : x = y ∧ i = id
  · obtain ⟨rfl, rfl⟩ := named
    exact .inr .forget
  · left
    cases found : (b.exchange y).waiting.lookup i with
    | some j =>
        rw [forget_of_lookup found, resolveAll_exchange]
        exact mem_setExchange_take waits fun here same => named ⟨here, same⟩
    | none =>
        rw [forget_of_not_mem (Exchange.not_mem_of_lookup_none found)]
        exact waits

theorem perform_waits (waits : (id, k) ∈ (b.exchange x).waiting) (a : Action) :
    (id, k) ∈ ((b.perform a).exchange x).waiting ∨ Removes b x id a := by
  have inside := lt_of_mem_waiting waits
  have settled : ∀ {b' call}, b' = b ∨ b' = b.settle call → (id, k) ∈ (b'.exchange x).waiting := by
    rintro b' call (rfl | rfl)
    · exact waits
    · exact waits
  cases a with
  | openExchange =>
      left
      show (id, k) ∈ (b.openExchange.exchange x).waiting
      rw [exchange_openExchange, if_neg (Nat.ne_of_lt inside)]
      exact waits
  | draw => exact .inl waits
  | register y method params => exact register_waits waits y method params
  | deliver y r => exact deliver_waits waits y r
  | abort y reason =>
      by_cases here : x = y
      · subst here
        exact .inr .abort
      · left
        show (id, k) ∈ ((b.abort y reason).2.exchange x).waiting
        rw [b.abort_exchange_of_ne y x reason here]
        exact waits
  | forget y i => exact forget_waits waits y i
  | drop y =>
      by_cases here : x = y
      · subst here
        exact .inr .drop
      · left
        show (id, k) ∈ ((b.drop y).exchange x).waiting
        rw [drop, resolveAll_exchange, exchange_setExchange, if_neg fun same => here same.1]
        exact waits
  | poll call => exact .inl (settled (b.poll_board call))
  | expire call ns => exact .inl (settled (b.expire_board call ns))
  | forsake call => exact .inl waits

theorem act_waits (waits : (id, k) ∈ (b.exchange x).waiting) (a : Action) :
    (id, k) ∈ ((b.act a).exchange x).waiting ∨ Removes b x id a := by
  unfold act
  split
  · exact .inl waits
  · exact perform_waits waits a

/-! ### A call that has left never waits again -/

/-- Whoever waits after a channel was closed waited before. -/
theorem abort_waits_before {w : UInt64 × Nat} {y : Nat} {reason : String}
    (waits : w ∈ ((b.abort y reason).2.exchange x).waiting) : w ∈ (b.exchange x).waiting := by
  cases closed : (b.exchange y).closed with
  | some first => rwa [abort_of_closed closed] at waits
  | none =>
      rw [abort_of_open closed, observe_exchange, resolveAll_exchange,
        exchange_setExchange] at waits
      split at waits
      · cases waits
      · exact waits

/-- Whoever waits after an action waited before, or was registered by it. -/
theorem perform_waits_or {w : UInt64 × Nat} {a : Action}
    (waits : w ∈ ((b.perform a).exchange x).waiting) :
    w ∈ (b.exchange x).waiting ∨ w.2 = b.calls.length := by
  have before : ∀ {b'}, Shrinks b b' → w ∈ (b'.exchange x).waiting →
      w ∈ (b.exchange x).waiting := by
    intro b' fewer member
    obtain ⟨waiting, sub, shape⟩ := fewer.exchange_eq x
    rw [shape] at member
    exact sub.mem member
  cases a with
  | openExchange =>
      left
      change w ∈ (b.openExchange.exchange x).waiting at waits
      rw [exchange_openExchange] at waits
      split at waits
      · cases waits
      · exact waits
  | draw => exact .inl waits
  | register y method params =>
      change w ∈ ((b.register y method params).2.exchange x).waiting at waits
      cases closed : (b.exchange y).closed with
      | some reason =>
          rw [register_of_closed closed] at waits
          exact .inl waits
      | none =>
          obtain ⟨i, -, -, waiting⟩ := b.register_waiting method params closed
          rcases waits_or_registered waiting waits with old | ⟨-, rfl⟩
          · exact .inl old
          · exact .inr rfl
  | deliver y r => exact .inl (before (b.shrinks_deliver y r) waits)
  | abort y reason => exact .inl (abort_waits_before waits)
  | forget y i => exact .inl (before (b.shrinks_forget y i) waits)
  | drop y =>
      left
      change w ∈ ((b.drop y).exchange x).waiting at waits
      rw [drop, resolveAll_exchange, exchange_setExchange] at waits
      split at waits
      · cases waits
      · exact waits
  | poll call => exact .inl (before (b.shrinks_poll call) waits)
  | expire call ns => exact .inl (before (b.shrinks_expire call ns) waits)
  | forsake call => exact .inl waits

theorem act_waits_or {w : UInt64 × Nat} {a : Action}
    (waits : w ∈ ((b.act a).exchange x).waiting) :
    w ∈ (b.exchange x).waiting ∨ w.2 = b.calls.length := by
  unfold act at waits
  split at waits
  · exact .inl waits
  · exact perform_waits_or waits

theorem perform_calls_length_le (b : Switchboard) (a : Action) :
    b.calls.length ≤ (b.perform a).calls.length := by
  cases a with
  | openExchange => exact Nat.le_refl _
  | draw => exact Nat.le_refl _
  | register x method params => exact b.register_calls_length_le x method params
  | deliver x r => exact Nat.le_of_eq (b.shrinks_deliver x r).calls_length_eq.symm
  | abort x reason => exact Nat.le_of_eq (b.abort_calls_length x reason).symm
  | forget x id => exact Nat.le_of_eq (b.shrinks_forget x id).calls_length_eq.symm
  | drop x =>
      show _ ≤ (b.drop x).calls.length
      rw [drop, resolveAll_length, setExchange_calls]
  | poll k => exact Nat.le_of_eq (b.shrinks_poll k).calls_length_eq.symm
  | expire k ns => exact Nat.le_of_eq (b.shrinks_expire k ns).calls_length_eq.symm
  | forsake k => exact Nat.le_of_eq (b.shrinks_settle k).calls_length_eq.symm

theorem act_calls_length_le (b : Switchboard) (a : Action) :
    b.calls.length ≤ (b.act a).calls.length := by
  unfold act
  split
  · exact Nat.le_refl _
  · exact b.perform_calls_length_le a

/-- A call that waits nowhere never waits again. -/
theorem run_gone (registered : k < b.calls.length)
    (gone : ∀ y i, (i, k) ∉ (b.exchange y).waiting) (as : List Action) (y : Nat) (i : UInt64) :
    (i, k) ∉ ((b.run as).exchange y).waiting := by
  induction as generalizing b with
  | nil => exact gone y i
  | cons a as ih =>
      refine ih (Nat.lt_of_lt_of_le registered (b.act_calls_length_le a)) fun y i waits => ?_
      rcases act_waits_or waits with before | new
      · exact gone y i before
      · exact absurd new (Nat.ne_of_lt registered)

/-- A call that an action takes off its channel waits nowhere. -/
theorem act_gone (h : b.Placed) (waits : (id, k) ∈ (b.exchange x).waiting) {a : Action}
    (left : (id, k) ∉ ((b.act a).exchange x).waiting) (y : Nat) (i : UInt64) :
    (i, k) ∉ ((b.act a).exchange y).waiting := by
  intro member
  rcases act_waits_or member with before | new
  · obtain ⟨rfl, rfl⟩ := h.place_eq waits before
    exact left member
  · exact absurd new (Nat.ne_of_lt (h.lt_of_waits waits))

/-- A call waits until an action takes it off its channel, and then never again. -/
theorem run_waits (h : b.Placed) (waits : (id, k) ∈ (b.exchange x).waiting) (as : List Action) :
    (id, k) ∈ ((b.run as).exchange x).waiting ∨
      ∃ before a after, as = before ++ a :: after ∧
        (id, k) ∈ ((b.run before).exchange x).waiting ∧ Removes (b.run before) x id a ∧
        ∀ rest y i, (i, k) ∉ ((b.run (before ++ a :: rest)).exchange y).waiting := by
  induction as generalizing b with
  | nil => exact .inl waits
  | cons a as ih =>
      by_cases still : (id, k) ∈ ((b.act a).exchange x).waiting
      · rcases ih (h.act a).placed still with last | ⟨before, a', after, rfl, facts⟩
        · exact .inl last
        · exact .inr ⟨a :: before, a', after, rfl, facts⟩
      · refine .inr ⟨[], a, as, rfl, waits, (act_waits waits a).resolve_left still, fun rest => ?_⟩
        have registered := Nat.lt_of_lt_of_le (h.lt_of_waits waits) (b.act_calls_length_le a)
        exact run_gone registered (act_gone h waits still) rest

end RpcLink.Switchboard
