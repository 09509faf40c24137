import Mathlib.Algebra.Ring.Nat
import RpcLink.Proofs.Exchange.Basic

/-!
What holds of every switchboard whose channels share one sequence of numbers: a call waits on a
channel exactly when it is among the calls that wait there under its number, and no two calls have
the same number. Every operation keeps this, as long as the numbers do not start anew.
-/

namespace RpcLink.Switchboard

/-- The switchboard is in order, and `n` numbers were drawn for it from the shared sequence. -/
structure Consistent (n : Nat) (b : Switchboard) : Prop where
  next_eq : b.next = UInt64.ofNat (n + 1)
  shared : ∀ x, (b.exchange x).ownNext = none
  id_le : ∀ c ∈ b.calls, c.id.toNat ≤ n
  increasing : b.calls.Pairwise fun c d => c.id < d.id
  /-- The calls that wait on a channel are those that were registered there and not resolved. -/
  mem_waiting : ∀ {x id k}, (id, k) ∈ (b.exchange x).waiting ↔
    ∃ c, b.calls[k]? = some c ∧ c.exchange = x ∧ c.id = id ∧ c.status = .waiting
  closed_waiting : ∀ {x}, (b.exchange x).closed.isSome → (b.exchange x).waiting = []
  dropped_waiting : ∀ {x}, (b.exchange x).dropped = true → (b.exchange x).waiting = []

theorem consistent_empty : Consistent 0 {} where
  next_eq := rfl
  shared := by simp [exchange]
  id_le := by simp
  increasing := .nil
  mem_waiting := by simp [exchange]
  closed_waiting := by simp [exchange]
  dropped_waiting := by simp [exchange]

namespace Consistent

variable {n : Nat} {b : Switchboard}

/-- A number belongs to one call. -/
theorem eq_of_id_eq (h : b.Consistent n) {j k : Nat} {c d : Call} (hc : b.calls[j]? = some c)
    (hd : b.calls[k]? = some d) (same : c.id = d.id) : j = k := by
  obtain ⟨hj, rfl⟩ := List.getElem?_eq_some_iff.mp hc
  obtain ⟨hk, rfl⟩ := List.getElem?_eq_some_iff.mp hd
  have apart := List.pairwise_iff_getElem.mp h.increasing
  rcases Nat.lt_trichotomy j k with less | equal | more
  · have := apart j k hj hk less
    rw [same] at this
    exact absurd this (UInt64.lt_irrefl _)
  · exact equal
  · have := apart k j hk hj more
    rw [same] at this
    exact absurd this (UInt64.lt_irrefl _)

theorem lookup_eq_some_iff (h : b.Consistent n) {x k : Nat} {id : UInt64} :
    (b.exchange x).waiting.lookup id = some k ↔ (id, k) ∈ (b.exchange x).waiting := by
  constructor
  · exact Exchange.mem_of_lookup
  · intro member
    cases found : (b.exchange x).waiting.lookup id with
    | none => exact absurd member (Exchange.not_mem_of_lookup_none found k)
    | some j =>
        obtain ⟨c, hc, -, hid, -⟩ := h.mem_waiting.mp (Exchange.mem_of_lookup found)
        obtain ⟨d, hd, -, did, -⟩ := h.mem_waiting.mp member
        rw [h.eq_of_id_eq hc hd (hid.trans did.symm)]

theorem not_dropped_of_mem (h : b.Consistent n) {x : Nat} {w : UInt64 × Nat}
    (member : w ∈ (b.exchange x).waiting) : (b.exchange x).dropped = false := by
  cases dropped : (b.exchange x).dropped with
  | false => rfl
  | true => simp [h.dropped_waiting dropped] at member

theorem not_closed_of_mem (h : b.Consistent n) {x : Nat} {w : UInt64 × Nat}
    (member : w ∈ (b.exchange x).waiting) : (b.exchange x).closed = none := by
  cases closed : (b.exchange x).closed with
  | none => rfl
  | some reason =>
      have isClosed : (b.exchange x).closed.isSome := by simp [closed]
      simp [h.closed_waiting isClosed] at member

/-! ### Operations -/

theorem observe (h : b.Consistent n) (o : Observation) : (b.observe o).Consistent n :=
  ⟨h.next_eq, h.shared, h.id_le, h.increasing, h.mem_waiting, h.closed_waiting,
    h.dropped_waiting⟩

theorem draw (h : b.Consistent n) : b.draw.2.Consistent (n + 1) where
  next_eq := by
    show b.next + 1 = _
    rw [h.next_eq]
    exact (UInt64.ofNat_add (n + 1) 1).symm
  shared := h.shared
  id_le c member := Nat.le_succ_of_le (h.id_le c member)
  increasing := h.increasing
  mem_waiting := h.mem_waiting
  closed_waiting := h.closed_waiting
  dropped_waiting := h.dropped_waiting

end Consistent

theorem exchange_openExchange (b : Switchboard) (y : Nat) :
    b.openExchange.exchange y = if y = b.exchanges.length then {} else b.exchange y := by
  unfold exchange openExchange
  rw [List.getD_eq_getElem?_getD, List.getD_eq_getElem?_getD, List.getElem?_append]
  rcases Nat.lt_trichotomy y b.exchanges.length with less | rfl | more
  · simp [less, Nat.ne_of_lt less]
  · simp
  · have beyond : ¬ y < b.exchanges.length := by omega
    have positive : y - b.exchanges.length ≠ 0 := by omega
    simp [beyond, positive, Nat.ne_of_gt more]

theorem Consistent.openExchange {n : Nat} {b : Switchboard} (h : b.Consistent n) :
    b.openExchange.Consistent n where
  next_eq := h.next_eq
  shared y := by
    rw [exchange_openExchange]
    split
    · rfl
    · exact h.shared y
  id_le := h.id_le
  increasing := h.increasing
  mem_waiting {y id k} := by
    rw [exchange_openExchange]
    split
    · rename_i fresh
      -- No call was registered on a channel that was not there.
      refine ⟨by simp, fun waits => ?_⟩
      have member := h.mem_waiting.mpr waits
      have there := lt_of_not_dropped (h.not_dropped_of_mem member)
      omega
    · exact h.mem_waiting
  closed_waiting {y} := by
    rw [exchange_openExchange]
    split
    · simp
    · exact h.closed_waiting
  dropped_waiting {y} := by
    rw [exchange_openExchange]
    split
    · simp
    · exact h.dropped_waiting

/-! ### A call is registered -/

/-- What registering does on an open channel that draws from the shared sequence. -/
theorem register_of_open {b : Switchboard} {x : Nat} {method : String} {params : Json}
    (own : (b.exchange x).ownNext = none) (opened : (b.exchange x).closed = none) :
    b.register x method params =
      (.ok ({ id := b.next, method, params }, b.calls.length),
        ({ b with
            next := b.next + 1
            calls := b.calls ++ [{ exchange := x, id := b.next }] } : Switchboard).setExchange x
          ((b.exchange x).add b.next b.calls.length)) := by
  unfold register drawFor
  simp only [opened, own]
  rfl

theorem register_of_closed {b : Switchboard} {x : Nat} {method : String} {params : Json}
    {reason : String} (closed : (b.exchange x).closed = some reason) :
    b.register x method params = (.error (.channelClosed reason), b) := by
  simp [register, closed]

/-- The status of the calls that there are, and a further one that waits. -/
theorem getElem?_append_call {calls : List Call} {c d : Call} {k : Nat} :
    (calls ++ [c])[k]? = some d ↔ calls[k]? = some d ∨ k = calls.length ∧ d = c := by
  rcases Nat.lt_trichotomy k calls.length with less | rfl | more
  · rw [List.getElem?_append_left less]
    simp [Nat.ne_of_lt less]
  · simp [eq_comm]
  · rw [List.getElem?_eq_none (by rw [List.length_append]; exact more),
      List.getElem?_eq_none (Nat.le_of_lt more)]
    simp [Nat.ne_of_gt more]

namespace Consistent

variable {n : Nat} {b : Switchboard}

theorem next_toNat (h : b.Consistent n) (few : n + 1 < 2 ^ 64) : b.next.toNat = n + 1 := by
  rw [h.next_eq, UInt64.toNat_ofNat', Nat.mod_eq_of_lt few]

/-- The next number is above all that were drawn. -/
theorem id_lt_next (h : b.Consistent n) (few : n + 1 < 2 ^ 64) {c : Call} (member : c ∈ b.calls) :
    c.id < b.next := by
  rw [UInt64.lt_iff_toNat_lt, h.next_toNat few]
  exact Nat.lt_succ_of_le (h.id_le c member)

/-- Nobody waits under the next number. -/
theorem add_waiting (h : b.Consistent n) (few : n + 1 < 2 ^ 64) {x call : Nat} :
    ((b.exchange x).add b.next call).waiting = (b.exchange x).waiting ++ [(b.next, call)] := by
  have fresh : ∀ w ∈ (b.exchange x).waiting, (w.1 != b.next) = true := by
    intro w member
    obtain ⟨c, found, -, id, -⟩ := h.mem_waiting.mp member
    have below := h.id_lt_next few (List.mem_of_getElem? found)
    rw [id] at below
    exact bne_iff_ne.mpr (UInt64.ne_of_lt below)
  show List.filter _ _ ++ _ = _
  rw [List.filter_eq_self.mpr fresh]

theorem register (h : b.Consistent n) (few : n + 1 < 2 ^ 64) {x : Nat}
    (there : (b.exchange x).dropped = false) (opened : (b.exchange x).closed = none)
    (method : String) (params : Json) :
    (b.register x method params).2.Consistent (n + 1) := by
  have inside := lt_of_not_dropped there
  rw [register_of_open (h.shared x) opened]
  constructor
  case next_eq => exact h.draw.next_eq
  case shared =>
    intro y
    rw [exchange_setExchange]
    split
    · exact h.shared x
    · exact h.shared y
  case id_le =>
    intro c member
    rcases List.mem_append.mp member with old | new
    · exact Nat.le_succ_of_le (h.id_le c old)
    · rw [List.mem_singleton.mp new]
      exact Nat.le_of_eq (h.next_toNat few)
  case increasing =>
    refine List.pairwise_append.mpr ⟨h.increasing, List.pairwise_singleton _ _, ?_⟩
    intro c old d new
    rw [List.mem_singleton.mp new]
    exact h.id_lt_next few old
  case mem_waiting =>
    intro y id k
    simp only [setExchange_calls, getElem?_append_call, or_and_right, exists_or, and_assoc,
      exists_and_left, exists_eq_left]
    rw [exchange_setExchange]
    split
    · rename_i here
      obtain ⟨rfl, -⟩ := here
      rw [h.add_waiting few, List.mem_append, List.mem_singleton, Prod.mk.injEq, h.mem_waiting]
      simp [and_comm, eq_comm]
    · rename_i elsewhere
      have other : y ≠ x := fun same => elsewhere ⟨same, inside⟩
      show (id, k) ∈ (b.exchange y).waiting ↔ _
      simp [h.mem_waiting, Ne.symm other]
  case closed_waiting =>
    intro y
    rw [exchange_setExchange]
    split
    · intro closed
      simp [Exchange.add, opened] at closed
    · exact h.closed_waiting
  case dropped_waiting =>
    intro y
    rw [exchange_setExchange]
    split
    · intro dropped
      simp [Exchange.add, there] at dropped
    · exact h.dropped_waiting

/-! ### Calls are resolved -/

/-- The calls `ks` leave their channel, and no other call does. -/
theorem conclude (h : b.Consistent n) {x : Nat} {e : Exchange} {ks : List Nat}
    {status : CallStatus Response} (resolved : status ≠ .waiting) (inside : x < b.exchanges.length)
    (own : e.ownNext = none)
    (left : ∀ {id k}, (id, k) ∈ e.waiting ↔ (id, k) ∈ (b.exchange x).waiting ∧ k ∉ ks)
    (waited : ∀ k ∈ ks, ∃ id, (id, k) ∈ (b.exchange x).waiting)
    (closed : e.closed.isSome → e.waiting = []) (dropped : e.dropped = true → e.waiting = []) :
    ((b.setExchange x e).resolveAll ks status).Consistent n := by
  constructor
  case next_eq => simpa using h.next_eq
  case shared =>
    intro y
    rw [resolveAll_exchange, exchange_setExchange]
    split
    · exact own
    · exact h.shared y
  case id_le =>
    intro c member
    obtain ⟨k, found⟩ := List.mem_iff_getElem?.mp member
    rw [resolveAll_getElem?, Option.map_eq_some_iff] at found
    obtain ⟨d, before, rfl⟩ := found
    have := h.id_le d (List.mem_of_getElem? before)
    split <;> exact this
  case increasing =>
    have sameIds : ((b.setExchange x e).resolveAll ks status).calls.map Call.id =
        b.calls.map Call.id := by
      apply List.ext_getElem?
      intro k
      rw [List.getElem?_map, List.getElem?_map, resolveAll_getElem?, Option.map_map]
      apply congrFun (congrArg Option.map (funext fun c => ?_))
      by_cases chosen : k ∈ ks <;> simp [chosen]
    have := List.pairwise_map.mpr h.increasing
    rw [← sameIds] at this
    exact List.pairwise_map.mp this
  case mem_waiting =>
    intro y id k
    simp only [resolveAll_exchange, resolveAll_getElem?, setExchange_calls, Option.map_eq_some_iff]
    -- Of the calls of another channel none is resolved.
    have apart : k ∈ ks → ∀ c, b.calls[k]? = some c → c.exchange = x := by
      intro chosen c found
      obtain ⟨i, member⟩ := waited k chosen
      obtain ⟨d, found', place, -⟩ := h.mem_waiting.mp member
      rw [found] at found'
      rw [Option.some.inj found']
      exact place
    have kept : (∃ c, (∃ d, b.calls[k]? = some d ∧
          (if k ∈ ks then { d with status } else d) = c) ∧
          c.exchange = y ∧ c.id = id ∧ c.status = .waiting) ↔
        k ∉ ks ∧ (id, k) ∈ (b.exchange y).waiting := by
      rw [h.mem_waiting]
      by_cases chosen : k ∈ ks
      · simp only [chosen, if_true, not_true_eq_false, false_and, iff_false]
        rintro ⟨c, ⟨d, -, rfl⟩, -, -, waits⟩
        exact resolved waits
      · simp [chosen]
    rw [kept, exchange_setExchange]
    split
    · rename_i here
      rw [here.1, left]
      exact and_comm
    · rename_i elsewhere
      have other : y ≠ x := fun same => elsewhere ⟨same, inside⟩
      refine ⟨fun member => ⟨fun chosen => ?_, member⟩, fun kept => kept.2⟩
      obtain ⟨c, found, place, -⟩ := h.mem_waiting.mp member
      exact other (place.symm.trans (apart chosen c found))
  case closed_waiting =>
    intro y
    rw [resolveAll_exchange, exchange_setExchange]
    split
    · exact closed
    · exact h.closed_waiting
  case dropped_waiting =>
    intro y
    rw [resolveAll_exchange, exchange_setExchange]
    split
    · exact dropped
    · exact h.dropped_waiting

/-- The calls of a channel without the one under a number. -/
theorem mem_filter_iff (h : b.Consistent n) {x k : Nat} {id : UInt64}
    (waits : (id, k) ∈ (b.exchange x).waiting) {i : UInt64} {j : Nat} :
    (i, j) ∈ (b.exchange x).waiting.filter (fun w => w.1 != id) ↔
      (i, j) ∈ (b.exchange x).waiting ∧ j ∉ [k] := by
  obtain ⟨c, found, -, idc, -⟩ := h.mem_waiting.mp waits
  rw [List.mem_filter, List.mem_singleton, bne_iff_ne]
  refine and_congr_right fun member => not_congr ?_
  obtain ⟨d, found', -, idd, -⟩ := h.mem_waiting.mp member
  constructor
  · intro same
    exact h.eq_of_id_eq found' found ((idd.trans same).trans idc.symm)
  · rintro rfl
    rw [found] at found'
    rw [← idd, ← idc, Option.some.inj found']

/-- One call leaves its channel. -/
theorem conclude_one (h : b.Consistent n) {x k : Nat} {id : UInt64}
    {status : CallStatus Response} (resolved : status ≠ .waiting)
    (waits : (id, k) ∈ (b.exchange x).waiting) :
    ((b.setExchange x { b.exchange x with
      waiting := (b.exchange x).waiting.filter fun w => w.1 != id }).resolveAll [k]
        status).Consistent n := by
  apply h.conclude resolved (lt_of_not_dropped (h.not_dropped_of_mem waits))
  case own => exact h.shared x
  case left => exact h.mem_filter_iff waits
  case waited =>
    intro j member
    rw [List.mem_singleton.mp member]
    exact ⟨id, waits⟩
  case closed =>
    intro closed
    simp [h.not_closed_of_mem waits] at closed
  case dropped =>
    intro dropped
    simp [h.not_dropped_of_mem waits] at dropped

/-- All calls leave their channel. -/
theorem conclude_all (h : b.Consistent n) {x : Nat} {e : Exchange} {status : CallStatus Response}
    (resolved : status ≠ .waiting) (inside : x < b.exchanges.length)
    (own : e.ownNext = none) (empty : e.waiting = []) :
    ((b.setExchange x e).resolveAll ((b.exchange x).waiting.map Prod.snd) status).Consistent n := by
  apply h.conclude resolved inside own
  case left =>
    intro id k
    rw [empty]
    constructor
    · intro member
      cases member
    · rintro ⟨waits, stays⟩
      exact absurd (List.mem_map.mpr ⟨(id, k), waits, rfl⟩) stays
  case waited =>
    intro k member
    obtain ⟨⟨id, k⟩, waits, rfl⟩ := List.mem_map.mp member
    exact ⟨id, waits⟩
  case closed => exact fun _ => empty
  case dropped => exact fun _ => empty

end Consistent

/-! ### What deliveries and closings do -/

section Operations

variable {n : Nat} {b : Switchboard} {x : Nat}

theorem deliver_of_lookup {r : Response} {id : UInt64} {k : Nat} (number : r.id = some id)
    (found : (b.exchange x).waiting.lookup id = some k) :
    b.deliver x r =
      (true, (b.setExchange x { b.exchange x with
        waiting := (b.exchange x).waiting.filter fun w => w.1 != id }).resolveAll [k]
          (.answered r)) := by
  unfold deliver
  simp only [number, Option.bind_some, found, Option.getD_some, Exchange.take_of_lookup found]
  rfl

theorem deliver_of_mem (h : b.Consistent n) {r : Response} {id : UInt64} {k : Nat}
    (number : r.id = some id) (waits : (id, k) ∈ (b.exchange x).waiting) :
    b.deliver x r =
      (true, (b.setExchange x { b.exchange x with
        waiting := (b.exchange x).waiting.filter fun w => w.1 != id }).resolveAll [k]
          (.answered r)) :=
  deliver_of_lookup number (h.lookup_eq_some_iff.mpr waits)

theorem deliver_of_not_mem {r : Response}
    (absent : ∀ id k, r.id = some id → (id, k) ∉ (b.exchange x).waiting) :
    b.deliver x r = (false, b.observe (.unmatched r.id)) := by
  have missing : (r.id.bind fun id => (b.exchange x).waiting.lookup id) = none := by
    cases number : r.id with
    | none => rfl
    | some id =>
        cases found : (b.exchange x).waiting.lookup id with
        | none => exact found
        | some k => exact absurd (Exchange.mem_of_lookup found) (absent id k number)
  simp only [deliver, missing]

theorem forget_of_lookup {id : UInt64} {k : Nat}
    (found : (b.exchange x).waiting.lookup id = some k) :
    b.forget x id =
      (true, (b.setExchange x { b.exchange x with
        waiting := (b.exchange x).waiting.filter fun w => w.1 != id }).resolveAll [k]
          .orphaned) := by
  simp only [forget, Exchange.take_of_lookup found]
  rfl

theorem forget_of_mem (h : b.Consistent n) {id : UInt64} {k : Nat}
    (waits : (id, k) ∈ (b.exchange x).waiting) :
    b.forget x id =
      (true, (b.setExchange x { b.exchange x with
        waiting := (b.exchange x).waiting.filter fun w => w.1 != id }).resolveAll [k]
          .orphaned) :=
  forget_of_lookup (h.lookup_eq_some_iff.mpr waits)

theorem forget_of_not_mem {id : UInt64} (absent : ∀ k, (id, k) ∉ (b.exchange x).waiting) :
    b.forget x id = (false, b) := by
  have missing : (b.exchange x).waiting.lookup id = none := by
    cases found : (b.exchange x).waiting.lookup id with
    | none => rfl
    | some k => exact absurd (Exchange.mem_of_lookup found) (absent k)
  simp only [forget, Exchange.take_of_lookup_none missing]

theorem abort_of_open (opened : (b.exchange x).closed = none) (reason : String) :
    b.abort x reason =
      ((b.exchange x).waiting.length,
        ((b.setExchange x { b.exchange x with closed := some reason, waiting := [] }).resolveAll
          ((b.exchange x).waiting.map Prod.snd) (.rejected reason)).observe
            (.closed reason (b.exchange x).waiting.length)) := by
  simp only [abort, opened]

theorem abort_of_closed {first : String} (closed : (b.exchange x).closed = some first)
    (reason : String) : b.abort x reason = (0, b) := by
  simp only [abort, closed]

end Operations

namespace Consistent

variable {n : Nat} {b : Switchboard}

theorem deliver (h : b.Consistent n) (x : Nat) (r : Response) : (b.deliver x r).2.Consistent n := by
  by_cases waits : ∃ id k, r.id = some id ∧ (id, k) ∈ (b.exchange x).waiting
  · obtain ⟨id, k, number, waits⟩ := waits
    rw [deliver_of_mem h number waits]
    exact h.conclude_one (by simp) waits
  · rw [deliver_of_not_mem fun id k number member => waits ⟨id, k, number, member⟩]
    exact h.observe _

theorem forget (h : b.Consistent n) (x : Nat) (id : UInt64) : (b.forget x id).2.Consistent n := by
  by_cases waits : ∃ k, (id, k) ∈ (b.exchange x).waiting
  · obtain ⟨k, waits⟩ := waits
    rw [forget_of_mem h waits]
    exact h.conclude_one (by simp) waits
  · rw [forget_of_not_mem fun k member => waits ⟨k, member⟩]
    exact h

theorem abort (h : b.Consistent n) {x : Nat} (inside : x < b.exchanges.length) (reason : String) :
    (b.abort x reason).2.Consistent n := by
  cases closed : (b.exchange x).closed with
  | none =>
      rw [abort_of_open closed]
      apply observe
      exact h.conclude_all (by simp) inside (h.shared x) rfl
  | some first =>
      rw [abort_of_closed closed]
      exact h

theorem drop (h : b.Consistent n) {x : Nat} (inside : x < b.exchanges.length) :
    (b.drop x).Consistent n :=
  h.conclude_all (by simp) inside (h.shared x) rfl

/-! ### What becomes of a call -/

/-- The call that waits on a channel under a number is resolved, and no other one. -/
theorem conclude_one_getElem? (h : b.Consistent n) {x k : Nat} {id : UInt64} (e : Exchange)
    (status : CallStatus Response) (waits : (id, k) ∈ (b.exchange x).waiting) (j : Nat) :
    ((b.setExchange x e).resolveAll [k] status).calls[j]? = b.calls[j]?.map fun c =>
      if c.exchange = x ∧ c.id = id ∧ c.status = .waiting then { c with status } else c := by
  rw [resolveAll_getElem?, setExchange_calls]
  cases found : b.calls[j]? with
  | none => rfl
  | some c =>
      have chosen : j ∈ [k] ↔ c.exchange = x ∧ c.id = id ∧ c.status = .waiting := by
        rw [List.mem_singleton]
        constructor
        · rintro rfl
          obtain ⟨d, found', facts⟩ := h.mem_waiting.mp waits
          rw [found] at found'
          rw [Option.some.inj found']
          exact facts
        · rintro facts
          obtain ⟨d, found', -, same, -⟩ := h.mem_waiting.mp waits
          exact h.eq_of_id_eq found found' (facts.2.1.trans same.symm)
      simp only [Option.map_some, chosen]

/-- The calls that wait on a channel are resolved, and no others. -/
theorem conclude_all_getElem? (h : b.Consistent n) {x : Nat} (e : Exchange)
    (status : CallStatus Response) (j : Nat) :
    ((b.setExchange x e).resolveAll ((b.exchange x).waiting.map Prod.snd) status).calls[j]? =
      b.calls[j]?.map fun c =>
        if c.exchange = x ∧ c.status = .waiting then { c with status } else c := by
  rw [resolveAll_getElem?, setExchange_calls]
  cases found : b.calls[j]? with
  | none => rfl
  | some c =>
      have chosen : j ∈ (b.exchange x).waiting.map Prod.snd ↔
          c.exchange = x ∧ c.status = .waiting := by
        rw [List.mem_map]
        constructor
        · rintro ⟨⟨id, k⟩, waits, rfl⟩
          obtain ⟨d, found', place, -, status⟩ := h.mem_waiting.mp waits
          rw [found] at found'
          rw [Option.some.inj found']
          exact ⟨place, status⟩
        · rintro ⟨place, status⟩
          exact ⟨(c.id, j), h.mem_waiting.mpr ⟨c, found, place, rfl, status⟩, rfl⟩
      simp only [Option.map_some, chosen]

/-- A response resolves the call that waits on its channel under its number. -/
theorem deliver_getElem? (h : b.Consistent n) (x : Nat) (r : Response) (j : Nat) :
    (b.deliver x r).2.calls[j]? = b.calls[j]?.map fun c =>
      if c.exchange = x ∧ r.id = some c.id ∧ c.status = .waiting then
        { c with status := .answered r } else c := by
  by_cases waits : ∃ id k, r.id = some id ∧ (id, k) ∈ (b.exchange x).waiting
  · obtain ⟨id, k, number, waits⟩ := waits
    rw [deliver_of_mem h number waits, h.conclude_one_getElem? _ _ waits, number]
    simp only [Option.some.injEq, eq_comm]
  · rw [deliver_of_not_mem fun id k number member => waits ⟨id, k, number, member⟩, observe_calls]
    cases found : b.calls[j]? with
    | none => rfl
    | some c =>
        rw [Option.map_some, if_neg]
        rintro ⟨place, number, status⟩
        exact waits ⟨c.id, j, number, h.mem_waiting.mpr ⟨c, found, place, rfl, status⟩⟩

theorem forget_getElem? (h : b.Consistent n) (x : Nat) (id : UInt64) (j : Nat) :
    (b.forget x id).2.calls[j]? = b.calls[j]?.map fun c =>
      if c.exchange = x ∧ c.id = id ∧ c.status = .waiting then
        { c with status := .orphaned } else c := by
  by_cases waits : ∃ k, (id, k) ∈ (b.exchange x).waiting
  · obtain ⟨k, waits⟩ := waits
    rw [forget_of_mem h waits, h.conclude_one_getElem? _ _ waits]
  · rw [forget_of_not_mem fun k member => waits ⟨k, member⟩]
    cases found : b.calls[j]? with
    | none => rfl
    | some c =>
        rw [Option.map_some, if_neg]
        rintro ⟨place, rfl, status⟩
        exact waits ⟨j, h.mem_waiting.mpr ⟨c, found, place, rfl, status⟩⟩

theorem abort_getElem? (h : b.Consistent n) (x : Nat) (reason : String) (j : Nat) :
    (b.abort x reason).2.calls[j]? = b.calls[j]?.map fun c =>
      if c.exchange = x ∧ c.status = .waiting then
        { c with status := .rejected reason } else c := by
  cases closed : (b.exchange x).closed with
  | none =>
      rw [abort_of_open closed, observe_calls]
      exact h.conclude_all_getElem? _ _ j
  | some first =>
      rw [abort_of_closed closed]
      cases found : b.calls[j]? with
      | none => rfl
      | some c =>
          rw [Option.map_some, if_neg]
          rintro ⟨place, status⟩
          have waits := h.mem_waiting.mpr ⟨c, found, place, rfl, status⟩
          rw [h.not_closed_of_mem waits] at closed
          cases closed

theorem drop_getElem? (h : b.Consistent n) (x j : Nat) :
    (b.drop x).calls[j]? = b.calls[j]?.map fun c =>
      if c.exchange = x ∧ c.status = .waiting then { c with status := .orphaned } else c :=
  h.conclude_all_getElem? _ _ j

end Consistent

end RpcLink.Switchboard
