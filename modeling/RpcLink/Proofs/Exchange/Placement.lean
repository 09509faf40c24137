import Mathlib.Data.List.Nodup
import RpcLink.Proofs.Exchange.Run

/-!
Where calls wait, and that those which were resolved stay as they are. Unlike the order of a
switchboard this does not depend on the numbers of the calls, so it holds however many were drawn.
-/

namespace RpcLink.Switchboard

/-- Those that wait on a channel are calls that were registered there and not resolved, each under
its own number, and nobody waits on a closed channel. -/
structure Placed (b : Switchboard) : Prop where
  call_of_mem : ∀ {x id k}, (id, k) ∈ (b.exchange x).waiting →
    ∃ c, b.calls[k]? = some c ∧ c.exchange = x ∧ c.id = id ∧ c.status = .waiting
  distinct : ∀ x, ((b.exchange x).waiting.map Prod.fst).Nodup
  closed_waiting : ∀ {x}, (b.exchange x).closed.isSome → (b.exchange x).waiting = []

/-- What comes of a switchboard: those that wait are in their places, and the calls that were
resolved before are as they were, whether or not they are still awaited. -/
structure Follows (b b' : Switchboard) : Prop where
  placed : b'.Placed
  resolved : ∀ {k : Nat} {c : Call}, b.calls[k]? = some c → c.status ≠ .waiting →
    ∃ settled, b'.calls[k]? = some { c with settled }

theorem placed_empty : Placed {} where
  call_of_mem := by simp [exchange]
  distinct := by simp [exchange]
  closed_waiting := by simp [exchange]

theorem Follows.trans {b b' b'' : Switchboard} (first : Follows b b') (second : Follows b' b'') :
    Follows b b'' where
  placed := second.placed
  resolved found done := by
    obtain ⟨settled, found'⟩ := first.resolved found done
    obtain ⟨settled', found''⟩ := second.resolved found' done
    exact ⟨settled', found''⟩

/-- A channel on which somebody waits has its place in the list. -/
theorem lt_of_mem_waiting {b : Switchboard} {x : Nat} {w : UInt64 × Nat}
    (waits : w ∈ (b.exchange x).waiting) : x < b.exchanges.length := by
  by_cases inside : x < b.exchanges.length
  · exact inside
  · simp [exchange, inside] at waits

/-- What registering on an open channel gives, and what it does to the calls and to those that
wait. -/
theorem register_waiting (b : Switchboard) {x : Nat} (method : String) (params : Json)
    (opened : (b.exchange x).closed = none) :
    ∃ id, (b.register x method params).1 = .ok ({ id, method, params }, b.calls.length) ∧
      (b.register x method params).2.calls = b.calls ++ [{ exchange := x, id }] ∧
      ∀ y, ((b.register x method params).2.exchange y).waiting =
        if y = x ∧ x < b.exchanges.length then
          (b.exchange y).waiting.filter (fun w => w.1 != id) ++ [(id, b.calls.length)]
        else (b.exchange y).waiting := by
  have drawn : (b.drawFor x).2.calls = b.calls := by
    unfold drawFor
    split <;> rfl
  refine ⟨(b.drawFor x).1, ?_, ?_, fun y => ?_⟩
  · simp only [Switchboard.register, opened, drawn]
  · simp only [Switchboard.register, opened, setExchange_calls, drawn]
  · obtain ⟨own, shape⟩ := b.drawFor_exchange x x
    obtain ⟨own', shape'⟩ := b.drawFor_exchange x y
    have count := b.drawFor_exchanges_length x
    simp only [Switchboard.register, opened]
    rw [exchange_setExchange]
    dsimp only
    rw [count]
    split
    · rename_i here
      rw [here.1]
      show (((b.drawFor x).2.exchange x).add _ _).waiting = _
      rw [shape, drawn]
      rfl
    · show ((b.drawFor x).2.exchange y).waiting = _
      rw [shape']

/-- Whoever waits after registering is the new call, or waited before. -/
theorem waits_or_registered {b board : Switchboard} {x y call : Nat} {id : UInt64}
    {w : UInt64 × Nat}
    (waiting : ∀ y, (board.exchange y).waiting =
      if y = x ∧ x < b.exchanges.length then
        (b.exchange y).waiting.filter (fun w => w.1 != id) ++ [(id, call)]
      else (b.exchange y).waiting)
    (waits : w ∈ (board.exchange y).waiting) :
    w ∈ (b.exchange y).waiting ∨ y = x ∧ w = (id, call) := by
  rw [waiting] at waits
  split at waits
  · rename_i here
    rcases List.mem_append.mp waits with old | new
    · exact .inl (List.mem_of_mem_filter old)
    · exact .inr ⟨here.1, List.mem_singleton.mp new⟩
  · exact .inl waits

/-- A registration that succeeded was made on an open channel, for one more call. -/
theorem of_registered {b board : Switchboard} {x call : Nat} {method : String} {params : Json}
    {request : Request} (registered : b.register x method params = (.ok (request, call), board)) :
    (b.exchange x).closed = none ∧ call = b.calls.length ∧
      board.calls = b.calls ++ [{ exchange := x, id := request.id }] ∧
      ∀ y, (board.exchange y).waiting =
        if y = x ∧ x < b.exchanges.length then
          (b.exchange y).waiting.filter (fun w => w.1 != request.id) ++ [(request.id, call)]
        else (b.exchange y).waiting := by
  cases closed : (b.exchange x).closed with
  | some reason =>
      rw [register_of_closed closed] at registered
      cases registered
  | none =>
      obtain ⟨id, made, calls, waiting⟩ := b.register_waiting method params closed
      rw [registered] at made calls waiting
      cases made
      exact ⟨rfl, rfl, calls, waiting⟩

namespace Placed

variable {b b' : Switchboard}

theorem lt_of_waits (h : b.Placed) {x k : Nat} {id : UInt64}
    (waits : (id, k) ∈ (b.exchange x).waiting) : k < b.calls.length := by
  obtain ⟨c, found, -⟩ := h.call_of_mem waits
  exact (List.getElem?_eq_some_iff.mp found).1

/-- A call waits on one channel only, and under one number. -/
theorem place_eq (h : b.Placed) {x y k : Nat} {id id' : UInt64}
    (waits : (id, k) ∈ (b.exchange x).waiting) (waits' : (id', k) ∈ (b.exchange y).waiting) :
    y = x ∧ id' = id := by
  obtain ⟨c, found, place, number, -⟩ := h.call_of_mem waits
  obtain ⟨d, found', place', number', -⟩ := h.call_of_mem waits'
  obtain rfl := Option.some.inj (found.symm.trans found')
  exact ⟨place'.symm.trans place, number'.symm.trans number⟩

/-- The call that waits under a number is found under it. -/
theorem lookup_eq (h : b.Placed) {x k : Nat} {id : UInt64}
    (waits : (id, k) ∈ (b.exchange x).waiting) : (b.exchange x).waiting.lookup id = some k := by
  cases found : (b.exchange x).waiting.lookup id with
  | none => exact absurd waits (Exchange.not_mem_of_lookup_none found k)
  | some j =>
      have entry := List.inj_on_of_nodup_map (h.distinct x) (Exchange.mem_of_lookup found) waits rfl
      exact congrArg (some ∘ Prod.snd) entry

/-- No call waits twice on a channel. -/
theorem calls_distinct (h : b.Placed) (x : Nat) :
    ((b.exchange x).waiting.map Prod.snd).Nodup := by
  refine List.Nodup.map_on ?_ (h.distinct x).of_map
  rintro ⟨id, k⟩ waits ⟨id', k'⟩ waits' same
  obtain rfl : k = k' := same
  rw [(h.place_eq waits' waits).2]

/-! ### Operations -/

theorem follows_refl (h : b.Placed) : Follows b b := ⟨h, fun found _ => ⟨_, found⟩⟩

/-- What resolves no call and lets nobody else wait. -/
theorem follows_of_waiting_eq (h : b.Placed)
    (waiting : ∀ y, (b'.exchange y).waiting = (b.exchange y).waiting)
    (closed : ∀ y, (b'.exchange y).closed = (b.exchange y).closed)
    (calls : ∀ {k : Nat} {c : Call}, b.calls[k]? = some c →
      ∃ settled, b'.calls[k]? = some { c with settled }) : Follows b b' where
  placed.call_of_mem := by
    intro x id k waits
    rw [waiting] at waits
    obtain ⟨c, found, facts⟩ := h.call_of_mem waits
    obtain ⟨settled, found'⟩ := calls found
    exact ⟨_, found', facts⟩
  placed.distinct x := by
    rw [waiting]
    exact h.distinct x
  placed.closed_waiting := by
    intro x
    rw [closed, waiting]
    exact h.closed_waiting
  resolved found _ := calls found

theorem openExchange (h : b.Placed) : Follows b b.openExchange := by
  have last : b.exchange b.exchanges.length = { dropped := true } := by simp [exchange]
  refine h.follows_of_waiting_eq (fun y => ?_) (fun y => ?_) fun found => ⟨_, found⟩
  · rw [exchange_openExchange]
    split
    · rename_i fresh
      rw [fresh, last]
    · rfl
  · rw [exchange_openExchange]
    split
    · rename_i fresh
      rw [fresh, last]
    · rfl

theorem settle (h : b.Placed) (call : Nat) : Follows b (b.settle call) := by
  refine h.follows_of_waiting_eq (fun _ => rfl) (fun _ => rfl) fun found => ?_
  rw [settle_getElem?, found]
  exact ⟨_, rfl⟩

theorem register (h : b.Placed) (x : Nat) (method : String) (params : Json) :
    Follows b (b.register x method params).2 := by
  cases closed : (b.exchange x).closed with
  | some reason =>
      rw [register_of_closed closed]
      exact h.follows_refl
  | none =>
      obtain ⟨id, -, calls, waiting⟩ := b.register_waiting method params closed
      have kept : ∀ {k : Nat} {c : Call}, b.calls[k]? = some c →
          (b.register x method params).2.calls[k]? = some c := by
        intro k c found
        rw [calls]
        exact getElem?_append_call.mpr (.inl found)
      refine ⟨⟨?_, fun y => ?_, ?_⟩, fun found _ => ⟨_, kept found⟩⟩
      · intro y i k waits
        rcases waits_or_registered waiting waits with old | ⟨rfl, new⟩
        · obtain ⟨c, found, facts⟩ := h.call_of_mem old
          exact ⟨c, kept found, facts⟩
        · obtain ⟨rfl, rfl⟩ := Prod.mk.inj new
          refine ⟨{ exchange := y, id := i }, ?_, rfl, rfl, rfl⟩
          rw [calls]
          exact List.getElem?_concat_length
      · rw [waiting]
        split
        · rw [List.map_append, List.nodup_append]
          refine ⟨(h.distinct y).sublist (List.filter_sublist.map _), by simp, ?_⟩
          rintro i old j new rfl
          obtain ⟨w, member, rfl⟩ := List.mem_map.mp old
          rw [List.mem_map] at new
          obtain ⟨v, last, same⟩ := new
          rw [List.mem_singleton.mp last] at same
          simp [← same] at member
        · exact h.distinct y
      · intro y isClosed
        rw [register_closed] at isClosed
        have other : y ≠ x := by
          rintro rfl
          simp [closed] at isClosed
        rw [waiting, if_neg fun here => other here.1]
        exact h.closed_waiting isClosed

/-- The calls `ks` leave their channel. -/
theorem conclude (h : b.Placed) {x : Nat} {e : Exchange} {ks : List Nat}
    (status : CallStatus Response) (fewer : e.waiting.Sublist (b.exchange x).waiting)
    (left : ∀ {id k}, (id, k) ∈ e.waiting → k ∉ ks)
    (waited : ∀ k ∈ ks, ∃ id, (id, k) ∈ (b.exchange x).waiting)
    (closed : e.closed.isSome → e.waiting = []) :
    Follows b ((b.setExchange x e).resolveAll ks status) := by
  have resolved : ∀ {k : Nat} {c : Call}, b.calls[k]? = some c → k ∉ ks →
      ((b.setExchange x e).resolveAll ks status).calls[k]? = some c := by
    intro k c found spared
    rw [resolveAll_getElem?, setExchange_calls, found, Option.map_some, if_neg spared]
  refine ⟨⟨?_, fun y => ?_, ?_⟩, ?_⟩
  · intro y id k waits
    rw [resolveAll_exchange, exchange_setExchange] at waits
    split at waits
    · rename_i here
      obtain ⟨c, found, facts⟩ := h.call_of_mem (fewer.subset waits)
      rw [here.1]
      exact ⟨c, resolved found (left waits), facts⟩
    · rename_i elsewhere
      obtain ⟨c, found, place, facts⟩ := h.call_of_mem waits
      refine ⟨c, resolved found fun concluded => ?_, place, facts⟩
      -- The calls that leave waited on the other channel.
      obtain ⟨id', waited⟩ := waited k concluded
      obtain ⟨d, found', place', -⟩ := h.call_of_mem waited
      rw [found] at found'
      rw [← Option.some.inj found', place] at place'
      exact elsewhere ⟨place', lt_of_mem_waiting waited⟩
  · rw [resolveAll_exchange, exchange_setExchange]
    split
    · exact (h.distinct x).sublist (fewer.map _)
    · exact h.distinct y
  · intro y
    rw [resolveAll_exchange, exchange_setExchange]
    split
    · exact closed
    · exact h.closed_waiting
  · intro k c found done
    refine ⟨c.settled, resolved found fun concluded => ?_⟩
    obtain ⟨id, waited⟩ := waited k concluded
    obtain ⟨d, found', -, -, waits⟩ := h.call_of_mem waited
    rw [found] at found'
    rw [Option.some.inj found'] at done
    exact done waits

/-- The call under a number leaves its channel. -/
theorem conclude_one (h : b.Placed) {x k : Nat} {id : UInt64} (status : CallStatus Response)
    (waits : (id, k) ∈ (b.exchange x).waiting) :
    Follows b ((b.setExchange x { b.exchange x with
      waiting := (b.exchange x).waiting.filter fun w => w.1 != id }).resolveAll [k] status) := by
  apply h.conclude status
  case fewer => exact List.filter_sublist
  case left =>
    intro i j left same
    obtain ⟨waits', other⟩ := List.mem_filter.mp left
    rw [List.mem_singleton.mp same] at waits'
    rw [(h.place_eq waits waits').2] at other
    simp at other
  case waited =>
    intro j member
    rw [List.mem_singleton.mp member]
    exact ⟨id, waits⟩
  case closed =>
    intro closed
    rw [h.closed_waiting closed]
    rfl

/-- All calls leave their channel. -/
theorem conclude_all (h : b.Placed) {x : Nat} {e : Exchange} (status : CallStatus Response)
    (empty : e.waiting = []) :
    Follows b ((b.setExchange x e).resolveAll ((b.exchange x).waiting.map Prod.snd) status) := by
  apply h.conclude status
  case fewer => simp [empty]
  case left => simp [empty]
  case waited =>
    intro k member
    obtain ⟨⟨id, k⟩, waits, rfl⟩ := List.mem_map.mp member
    exact ⟨id, waits⟩
  case closed => exact fun _ => empty

theorem observe (h : b.Placed) (o : Observation) : Follows b (b.observe o) :=
  h.follows_of_waiting_eq (fun _ => rfl) (fun _ => rfl) fun found => ⟨_, found⟩

theorem deliver (h : b.Placed) (x : Nat) (r : Response) : Follows b (b.deliver x r).2 := by
  by_cases waits : ∃ id k, r.id = some id ∧ (b.exchange x).waiting.lookup id = some k
  · obtain ⟨id, k, number, found⟩ := waits
    rw [deliver_of_lookup number found]
    exact h.conclude_one _ (Exchange.mem_of_lookup found)
  · rw [deliver_of_not_mem]
    · exact h.observe _
    · intro id k number member
      cases found : (b.exchange x).waiting.lookup id with
      | some j => exact waits ⟨id, j, number, found⟩
      | none => exact Exchange.not_mem_of_lookup_none found k member

theorem forget (h : b.Placed) (x : Nat) (id : UInt64) : Follows b (b.forget x id).2 := by
  cases found : (b.exchange x).waiting.lookup id with
  | some k =>
      rw [forget_of_lookup found]
      exact h.conclude_one _ (Exchange.mem_of_lookup found)
  | none =>
      rw [forget_of_not_mem (Exchange.not_mem_of_lookup_none found)]
      exact h.follows_refl

theorem abort (h : b.Placed) (x : Nat) (reason : String) : Follows b (b.abort x reason).2 := by
  cases closed : (b.exchange x).closed with
  | none =>
      rw [abort_of_open closed]
      have concluded := h.conclude_all (x := x)
        (e := { b.exchange x with closed := some reason, waiting := [] }) (.rejected reason) rfl
      exact concluded.trans (concluded.placed.observe _)
  | some first =>
      rw [abort_of_closed closed]
      exact h.follows_refl

theorem drop (h : b.Placed) (x : Nat) : Follows b (b.drop x) := h.conclude_all _ rfl

theorem dispatch (h : b.Placed) (x : Nat) (frame : Framing.Frame) :
    Follows b (b.dispatch x frame) := by
  unfold Switchboard.dispatch
  split
  · split
    · exact h.deliver x _
    · exact h.observe _
  · exact h.observe _

theorem dispatchAll (h : b.Placed) (x : Nat) (frames : List Framing.Frame) :
    Follows b (b.dispatchAll x frames) := by
  induction frames generalizing b with
  | nil => exact h.follows_refl
  | cons frame frames ih => exact (h.dispatch x frame).trans (ih (h.dispatch x frame).placed)

theorem poll (h : b.Placed) (call : Nat) : Follows b (b.poll call).2 := by
  rcases b.poll_board call with unchanged | changed
  · rw [unchanged]
    exact h.follows_refl
  · rw [changed]
    exact h.settle call

/-! ### Runs -/

theorem perform (h : b.Placed) (a : Action) : Follows b (b.perform a) := by
  have settled : ∀ {b' call}, b' = b ∨ b' = b.settle call → Follows b b' := by
    rintro b' call (rfl | rfl)
    · exact h.follows_refl
    · exact h.settle call
  cases a with
  | openExchange => exact h.openExchange
  | draw => exact h.follows_of_waiting_eq (fun _ => rfl) (fun _ => rfl) fun found => ⟨_, found⟩
  | register x method params => exact h.register x method params
  | deliver x response => exact h.deliver x response
  | abort x reason => exact h.abort x reason
  | forget x id => exact h.forget x id
  | drop x => exact h.drop x
  | poll call => exact settled (b.poll_board call)
  | expire call ns => exact settled (b.expire_board call ns)
  | forsake call => exact h.settle call

theorem act (h : b.Placed) (a : Action) : Follows b (b.act a) := by
  unfold Switchboard.act
  split
  · exact h.follows_refl
  · exact h.perform a

theorem run (h : b.Placed) (as : List Action) : Follows b (b.run as) := by
  induction as generalizing b with
  | nil => exact h.follows_refl
  | cons a as ih => exact (h.act a).trans (ih (h.act a).placed)

end Placed

end RpcLink.Switchboard
