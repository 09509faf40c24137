import RpcLink.Proofs.Exchange.Run

/-!
How calls are resolved. What becomes of a call is told by the actions that follow its
registration: the first of them that concerns it decides, and none after it does anything to it.
Only a response with the call's number that is delivered on its own channel, the end of that
channel and forgetting the call there concern it.
-/

namespace RpcLink.Switchboard

/-- What an action makes of a call that waits on a channel under a number, if it concerns it. -/
def verdict (x : Nat) (id : UInt64) : Action → Option (CallStatus Response)
  | .deliver y r => if y = x ∧ r.id = some id then some (.answered r) else none
  | .abort y reason => if y = x then some (.rejected reason) else none
  | .forget y i => if y = x ∧ i = id then some .orphaned else none
  | .drop y => if y = x then some .orphaned else none
  | _ => none

/-- What becomes of a call in a run: the first action that concerns it decides. -/
def fate (x : Nat) (id : UInt64) (as : List Action) : CallStatus Response :=
  (as.findSome? (verdict x id)).getD .waiting

/-- How a call with a status stands for the one who awaits it. -/
def Standing.ofStatus (id : UInt64) : CallStatus Response → Standing
  | .waiting => .waiting id
  | .answered r => .done (.ok r)
  | .rejected reason => .done (.error (.channelClosed reason))
  | .orphaned => .done (.error (.channelClosed "channel dropped"))

/-- The status of the call at a place. -/
def status? (b : Switchboard) (call : Nat) : Option (CallStatus Response) :=
  b.calls[call]?.map Call.status

/-! ### Verdicts -/

theorem verdict_of_channel {x : Nat} {id : UInt64} {a : Action} (other : a.channel? ≠ some x) :
    verdict x id a = none := by
  cases a <;> simp_all [verdict, Action.channel?]

theorem verdict_ne_waiting {x : Nat} {id : UInt64} {a : Action} :
    verdict x id a ≠ some .waiting := by
  cases a <;> simp [verdict]

theorem verdict_answered {x : Nat} {id : UInt64} {a : Action} {r : Response}
    (answered : verdict x id a = some (.answered r)) : a = .deliver x r ∧ r.id = some id := by
  cases a with
  | deliver y s =>
      simp only [verdict, Option.ite_none_right_eq_some, Option.some.injEq,
        CallStatus.answered.injEq] at answered
      obtain ⟨⟨rfl, number⟩, rfl⟩ := answered
      exact ⟨rfl, number⟩
  | _ => simp [verdict] at answered

theorem verdict_rejected {x : Nat} {id : UInt64} {a : Action} {reason : String}
    (rejected : verdict x id a = some (.rejected reason)) : a = .abort x reason := by
  cases a <;> simp_all [verdict]

theorem verdict_orphaned {x : Nat} {id : UInt64} {a : Action}
    (orphaned : verdict x id a = some .orphaned) : a = .forget x id ∨ a = .drop x := by
  cases a <;> simp_all [verdict]

theorem fate_cons_of_some {x : Nat} {id : UInt64} {a : Action} {as : List Action}
    {status : CallStatus Response} (decided : verdict x id a = some status) :
    fate x id (a :: as) = status := by
  simp [fate, decided]

theorem fate_cons_of_none {x : Nat} {id : UInt64} {a : Action} {as : List Action}
    (spared : verdict x id a = none) : fate x id (a :: as) = fate x id as := by
  simp [fate, spared]

/-- What has become of a call is not changed by what follows. -/
theorem fate_append_of_ne_waiting {x : Nat} {id : UInt64} {as bs : List Action}
    (resolved : fate x id as ≠ .waiting) : fate x id (as ++ bs) = fate x id as := by
  unfold fate at resolved ⊢
  rw [List.findSome?_append]
  cases decided : as.findSome? (verdict x id) with
  | none => simp [decided] at resolved
  | some status => rfl

/-! ### One action -/

namespace Consistent

variable {n : Nat} {b : Switchboard}

/-- A channel on which a call waits is there and open. -/
theorem waits_there (h : b.Consistent n) {k : Nat} {c : Call} (found : b.calls[k]? = some c)
    (waits : c.status = .waiting) :
    (b.exchange c.exchange).dropped = false ∧ (b.exchange c.exchange).closed = none := by
  have member := h.mem_waiting.mpr ⟨c, found, rfl, rfl, waits⟩
  exact ⟨h.not_dropped_of_mem member, h.not_closed_of_mem member⟩

/-- An action leaves a call alone, or does what its verdict says to one that waits. -/
theorem perform_call (h : b.Consistent n) {k : Nat} {c : Call} (found : b.calls[k]? = some c)
    (a : Action) :
    ∃ d, (b.perform a).calls[k]? = some d ∧ d.exchange = c.exchange ∧ d.id = c.id ∧
      d.status = if c.status = .waiting then (verdict c.exchange c.id a).getD .waiting
        else c.status := by
  have settled : ∀ call, ∃ d, (b.settle call).calls[k]? = some d ∧ d.exchange = c.exchange ∧
      d.id = c.id ∧ d.status = if c.status = .waiting then .waiting else c.status := by
    intro call
    rw [settle_getElem?, found]
    exact ⟨_, rfl, rfl, rfl, by split <;> simp_all⟩
  have same : ∃ d, b.calls[k]? = some d ∧ d.exchange = c.exchange ∧
      d.id = c.id ∧ d.status = if c.status = .waiting then .waiting else c.status :=
    ⟨c, found, rfl, rfl, by split <;> simp_all⟩
  cases a with
  | openExchange => exact same
  | draw => exact same
  | register x method params =>
      show ∃ d, (b.register x method params).2.calls[k]? = some d ∧ _
      cases closed : (b.exchange x).closed with
      | some reason =>
          rw [register_of_closed closed]
          exact same
      | none =>
          rw [register_of_open (h.shared x) closed, setExchange_calls,
            getElem?_append_call.mpr (.inl found)]
          rw [found] at same
          exact same
  | deliver x r =>
      show ∃ d, (b.deliver x r).2.calls[k]? = some d ∧ _
      rw [h.deliver_getElem?, found, Option.map_some]
      by_cases waits : c.status = .waiting
      · by_cases concerned : x = c.exchange ∧ r.id = some c.id
        · simp [verdict, waits, concerned]
        · simp [verdict, waits, concerned, eq_comm (a := c.exchange)]
      · simp [waits]
  | abort x reason =>
      show ∃ d, (b.abort x reason).2.calls[k]? = some d ∧ _
      rw [h.abort_getElem?, found, Option.map_some]
      by_cases waits : c.status = .waiting
      · by_cases concerned : x = c.exchange
        · simp [verdict, waits, concerned]
        · simp [verdict, waits, concerned, Ne.symm concerned]
      · simp [waits]
  | forget x id =>
      show ∃ d, (b.forget x id).2.calls[k]? = some d ∧ _
      rw [h.forget_getElem?, found, Option.map_some]
      by_cases waits : c.status = .waiting
      · by_cases concerned : x = c.exchange ∧ id = c.id
        · simp [verdict, waits, concerned]
        · simp [verdict, waits, concerned, eq_comm (a := c.exchange), eq_comm (a := c.id)]
      · simp [waits]
  | drop x =>
      show ∃ d, (b.drop x).calls[k]? = some d ∧ _
      rw [h.drop_getElem?, found, Option.map_some]
      by_cases waits : c.status = .waiting
      · by_cases concerned : x = c.exchange
        · simp [verdict, waits, concerned]
        · simp [verdict, waits, concerned, Ne.symm concerned]
      · simp [waits]
  | poll call =>
      rcases b.poll_board call with unchanged | changed
      · rw [perform, unchanged]
        exact same
      · rw [perform, changed]
        exact settled call
  | expire call ns =>
      rcases b.expire_board call ns with unchanged | changed
      · rw [perform, unchanged]
        exact same
      · rw [perform, changed]
        exact settled call
  | forsake call => exact settled call

theorem act_call (h : b.Consistent n) {k : Nat} {c : Call} (found : b.calls[k]? = some c)
    (a : Action) :
    ∃ d, (b.act a).calls[k]? = some d ∧ d.exchange = c.exchange ∧ d.id = c.id ∧
      d.status = if c.status = .waiting then (verdict c.exchange c.id a).getD .waiting
        else c.status := by
  unfold Switchboard.act
  split
  · rename_i gone
    refine ⟨c, found, rfl, rfl, ?_⟩
    split
    · rename_i waits
      -- The call waits on a channel that is there, so that this is another one.
      have other : a.channel? ≠ some c.exchange := by
        intro here
        simp [here, (h.waits_there found waits).1] at gone
      rw [verdict_of_channel other, waits]
      rfl
    · rfl
  · exact h.perform_call found a

/-! ### A run -/

/-- The first action of a run that concerns a waiting call decides what becomes of it. -/
theorem run_call (h : b.Consistent n) {k : Nat} {c : Call} (found : b.calls[k]? = some c)
    {as : List Action} (few : n + b.drawn as < 2 ^ 64) :
    ∃ d, (b.run as).calls[k]? = some d ∧ d.exchange = c.exchange ∧ d.id = c.id ∧
      d.status = if c.status = .waiting then fate c.exchange c.id as else c.status := by
  induction as generalizing n b c with
  | nil => exact ⟨c, found, rfl, rfl, by split <;> simp_all [fate]⟩
  | cons a as ih =>
      obtain ⟨d, foundD, place, number, status⟩ := h.act_call found a
      obtain ⟨first, rest⟩ := drawn_cons_lt few
      obtain ⟨e, foundE, place', number', status'⟩ := ih (h.act first) foundD rest
      refine ⟨e, foundE, place'.trans place, number'.trans number, ?_⟩
      rw [status', status, place, number]
      by_cases waits : c.status = .waiting
      · cases decided : verdict c.exchange c.id a with
        | none => simp [waits, fate_cons_of_none decided]
        | some s =>
            have resolved : s ≠ .waiting := fun same => verdict_ne_waiting (same ▸ decided)
            simp [waits, resolved, fate_cons_of_some decided]
      · simp [waits]

/-- A call is rejected with the reason for which its channel was closed. -/
theorem run_rejected (h : b.Consistent n) {k : Nat} {c : Call} (found : b.calls[k]? = some c)
    (waits : c.status = .waiting) {as : List Action} (few : n + b.drawn as < 2 ^ 64)
    {reason : String} (rejected : fate c.exchange c.id as = .rejected reason) :
    ((b.run as).exchange c.exchange).closed = some reason := by
  induction as generalizing n b c with
  | nil => cases rejected
  | cons a as ih =>
      obtain ⟨first, rest⟩ := drawn_cons_lt few
      have next := h.act first
      cases decided : verdict c.exchange c.id a with
      | none =>
          obtain ⟨d, foundD, place, number, status⟩ := h.act_call found a
          rw [if_pos waits, decided] at status
          rw [fate_cons_of_none decided] at rejected
          rw [← place, ← number] at rejected
          rw [← place]
          exact ih next foundD status rest rejected
      | some s =>
          rw [fate_cons_of_some decided] at rejected
          subst rejected
          obtain rfl := verdict_rejected decided
          obtain ⟨there, opened⟩ := h.waits_there found waits
          refine run_closed ?_ as
          rw [act_of_there rfl there]
          show ((b.abort c.exchange reason).2.exchange c.exchange).closed = some reason
          rw [abort_of_open opened, observe_exchange, resolveAll_exchange, exchange_setExchange]
          simp [lt_of_not_dropped there]

/-- A call that is registered waits on its channel under the number of its request. -/
theorem register_call (h : b.Consistent n) {x call : Nat} {method : String} {params : Json}
    {request : Request} (there : (b.exchange x).dropped = false)
    (registered : (b.register x method params).1 = .ok (request, call)) :
    b.draws (.register x method params) = 1 ∧
      (b.act (.register x method params)).calls[call]? =
        some { exchange := x, id := request.id } := by
  cases closed : (b.exchange x).closed with
  | some reason =>
      rw [register_of_closed closed] at registered
      cases registered
  | none =>
      rw [register_of_open (h.shared x) closed] at registered
      cases registered
      refine ⟨by simp [draws, there, closed], ?_⟩
      rw [act_of_there rfl there]
      show (b.register x method params).2.calls[_]? = _
      rw [register_of_open (h.shared x) closed, setExchange_calls]
      exact List.getElem?_concat_length

end Consistent

/-- Whoever awaits a call is told its status. -/
theorem poll_of_awaited {b : Switchboard} {k : Nat} {c : Call} (found : b.calls[k]? = some c)
    (awaited : c.settled = false) : (b.poll k).1 = .ofStatus c.id c.status := by
  have still : b.awaited? k = some c := by simp [awaited?, found, awaited]
  unfold poll
  simp only [still, Call.outcome]
  cases c.status <;> rfl

/-! ### The first verdict -/

/-- What became of a call is the verdict of an action before which none concerned it. -/
theorem fate_eq_iff {x : Nat} {id : UInt64} {as : List Action} {status : CallStatus Response}
    (resolved : status ≠ .waiting) :
    fate x id as = status ↔ ∃ earlier a later, as = earlier ++ a :: later ∧
      verdict x id a = some status ∧ ∀ e ∈ earlier, verdict x id e = none := by
  rw [← List.findSome?_eq_some_iff]
  unfold fate
  cases as.findSome? (verdict x id) with
  | none => simp [Ne.symm resolved]
  | some s => simp

/-- A call was answered with the first response that was delivered under its number. -/
theorem fate_answered {x : Nat} {id : UInt64} {as : List Action} {r : Response}
    (answered : fate x id as = .answered r) :
    r.id = some id ∧ ∃ earlier later, as = earlier ++ .deliver x r :: later ∧
      ∀ s, s.id = some id → .deliver x s ∉ earlier := by
  obtain ⟨earlier, a, later, rfl, decided, spared⟩ := (fate_eq_iff (by simp)).mp answered
  obtain ⟨rfl, number⟩ := verdict_answered decided
  refine ⟨number, earlier, later, rfl, fun s same member => ?_⟩
  have := spared _ member
  simp [verdict, same] at this

/-- A call was rejected with the first reason for which its channel was closed. -/
theorem fate_rejected {x : Nat} {id : UInt64} {as : List Action} {reason : String}
    (rejected : fate x id as = .rejected reason) :
    ∃ earlier later, as = earlier ++ .abort x reason :: later ∧
      ∀ other, .abort x other ∉ earlier := by
  obtain ⟨earlier, a, later, rfl, decided, spared⟩ := (fate_eq_iff (by simp)).mp rejected
  obtain rfl := verdict_rejected decided
  refine ⟨earlier, later, rfl, fun other member => ?_⟩
  have := spared _ member
  simp [verdict] at this

theorem fate_orphaned {x : Nat} {id : UInt64} {as : List Action}
    (orphaned : fate x id as = .orphaned) : .forget x id ∈ as ∨ .drop x ∈ as := by
  obtain ⟨earlier, a, later, rfl, decided, -⟩ := (fate_eq_iff (by simp)).mp orphaned
  rcases verdict_orphaned decided with rfl | rfl
  · exact .inl (by simp)
  · exact .inr (by simp)

/-! ### A call that was registered -/

section Registered

variable {before as bs : List Action} {x call : Nat} {method : String} {params : Json}
  {request : Request}

/-- The beginning of a run draws no more numbers than the whole run. -/
theorem drawn_lt_of_beginning (earlier : as <+: bs)
    (few : drawn {} (before ++ .register x method params :: bs) < 2 ^ 64) :
    drawn {} (before ++ .register x method params :: as) < 2 ^ 64 := by
  obtain ⟨rest, rfl⟩ := earlier
  rw [← List.cons_append, ← List.append_assoc, drawn_append] at few
  omega

/-- The switchboard is in order after a run in which a call was registered, and what follows its
registration tells what became of it. -/
theorem run_registered (few : drawn {} (before ++ .register x method params :: as) < 2 ^ 64)
    (there : ((run {} before).exchange x).dropped = false)
    (registered : ((run {} before).register x method params).1 = .ok (request, call)) :
    (∃ n, (run {} (before ++ .register x method params :: as)).Consistent n) ∧
    (∃ c, (run {} (before ++ .register x method params :: as)).calls[call]? = some c ∧
      c.exchange = x ∧ c.id = request.id ∧ c.status = fate x request.id as) ∧
    ∀ reason, fate x request.id as = .rejected reason →
      ((run {} (before ++ .register x method params :: as)).exchange x).closed = some reason := by
  rw [drawn_append] at few
  have start : (run {} before).Consistent (0 + drawn {} before) :=
    consistent_empty.run (by omega)
  obtain ⟨drawsOne, waits⟩ := start.register_call there registered
  have counted : 0 + drawn {} before + 1 +
      ((run {} before).act (.register x method params)).drawn as < 2 ^ 64 := by
    rw [drawn, drawsOne] at few
    omega
  have first := start.act (a := .register x method params) (by omega)
  rw [drawsOne] at first
  obtain ⟨c, found, place, number, status⟩ := first.run_call waits counted
  rw [run_append]
  exact ⟨⟨_, first.run counted⟩, ⟨c, found, place, number, status.trans (if_pos rfl)⟩,
    fun reason => first.run_rejected waits rfl counted⟩

end Registered

/-- A call that is registered is resolved at most once, whatever is done afterwards: its status is
what the first action makes of it that concerns it. While it waits, its number is in the map of its
own channel and of no other one; afterwards it is in none. -/
theorem registered_call_resolves_once {before after : List Action} {x call : Nat}
    {method : String} {params : Json} {request : Request}
    (few : drawn {} (before ++ .register x method params :: after) < 2 ^ 64)
    (there : ((run {} before).exchange x).dropped = false)
    (registered : ((run {} before).register x method params).1 = .ok (request, call)) :
    let moment (as : List Action) := run {} (before ++ .register x method params :: as)
    let b := moment after
    let status := fate x request.id after
    -- The call has one status, which is also what the one who awaits it is told.
    (∃ c, b.calls[call]? = some c ∧ c.exchange = x ∧ c.id = request.id ∧ c.status = status ∧
      (c.settled = false → (b.poll call).1 = .ofStatus request.id status)) ∧
    -- It waits exactly while its number is in the map of its channel, and in no other map.
    (status = .waiting ↔ (request.id, call) ∈ (b.exchange x).waiting) ∧
    (∀ y k, (request.id, k) ∈ (b.exchange y).waiting → y = x ∧ k = call) ∧
    -- A response that resolved it is the first one delivered on its channel under its number.
    (∀ r, status = .answered r → r.id = some request.id ∧ ∃ earlier later,
      after = earlier ++ .deliver x r :: later ∧
        ∀ s, s.id = some request.id → .deliver x s ∉ earlier) ∧
    -- A reason with which it was rejected is the first one for which its channel was closed.
    (∀ reason, status = .rejected reason →
      (b.exchange x).closed = some reason ∧ ∃ earlier later,
        after = earlier ++ .abort x reason :: later ∧ ∀ other, .abort x other ∉ earlier) ∧
    -- Otherwise it was forgotten, or its channel is gone.
    (status = .orphaned → .forget x request.id ∈ after ∨ .drop x ∈ after) ∧
    -- Once it is resolved it stays so.
    (∀ earlier, earlier <+: after → (moment earlier).status? call ≠ some .waiting →
      (moment earlier).status? call = b.status? call) ∧
    -- What is done to other channels leaves it alone.
    (∀ a, a.channel? ≠ some x → (b.act a).status? call = b.status? call) := by
  intro moment b status
  obtain ⟨⟨n, inOrder⟩, ⟨c, found, place, number, stands⟩, closed⟩ :=
    run_registered few there registered
  have told : ∀ earlier, earlier <+: after →
      (moment earlier).status? call = some (fate x request.id earlier) := by
    intro earlier begins
    obtain ⟨-, ⟨d, found', -, -, stands'⟩, -⟩ :=
      run_registered (drawn_lt_of_beginning begins few) there registered
    rw [status?, found', Option.map_some, stands']
  refine ⟨⟨c, found, place, number, stands, fun awaited => ?_⟩, ?_, ?_,
    fun r answered => fate_answered answered,
    fun reason rejected => ⟨closed reason rejected, fate_rejected rejected⟩, fate_orphaned, ?_, ?_⟩
  · rw [poll_of_awaited found awaited, number, stands]
  · rw [inOrder.mem_waiting]
    constructor
    · exact fun waiting => ⟨c, found, place, number, stands.trans waiting⟩
    · rintro ⟨d, found', -, -, waiting⟩
      rw [found] at found'
      rw [← Option.some.inj found', stands] at waiting
      exact waiting
  · intro y k member
    obtain ⟨d, found', place', number', -⟩ := inOrder.mem_waiting.mp member
    obtain rfl := inOrder.eq_of_id_eq found' found (number'.trans number.symm)
    rw [found] at found'
    rw [← Option.some.inj found', place] at place'
    exact ⟨place'.symm, rfl⟩
  · rintro earlier ⟨rest, rfl⟩ resolved
    rw [told earlier (List.prefix_append _ _)] at resolved ⊢
    rw [told _ List.prefix_rfl, fate_append_of_ne_waiting fun same => resolved (same ▸ rfl)]
  · intro a other
    obtain ⟨d, found', -, -, stands'⟩ := inOrder.act_call found a
    rw [place, verdict_of_channel other] at stands'
    rw [status?, found', told _ List.prefix_rfl, Option.map_some, stands', stands]
    split <;> simp_all

/-- Two channels, on each of which a call waits: closing the other channel and forgetting the other
number do nothing to the first call, its response resolves it, and closing its channel comes too
late. -/
theorem response_among_others_resolves_once :
    let before : List Action := [.openExchange, .openExchange]
    let after : List Action := [.register 1 "status" .null, .abort 1 "exited", .forget 0 2,
      .deliver 0 (.success 1 .null), .abort 0 "client stopped"]
    drawn {} (before ++ .register 0 "status" .null :: after) < 2 ^ 64 ∧
      ((run {} before).exchange 0).dropped = false ∧
      ((run {} before).register 0 "status" .null).1 =
        .ok ({ id := 1, method := "status", params := .null }, 0) ∧
      (run {} (before ++ .register 0 "status" .null :: after)).status? 0 =
        some (.answered (.success 1 .null)) := by
  intro before after
  have few : drawn {} (before ++ .register 0 "status" .null :: after) < 2 ^ 64 := by decide
  have there : ((run {} before).exchange 0).dropped = false := by decide
  have registered : ((run {} before).register 0 "status" .null).1 =
      .ok ({ id := 1, method := "status", params := .null }, 0) := rfl
  obtain ⟨⟨c, found, -, -, status, -⟩, -⟩ := registered_call_resolves_once few there registered
  refine ⟨few, there, registered, ?_⟩
  rw [status?, found, Option.map_some, status]
  decide

end RpcLink.Switchboard
