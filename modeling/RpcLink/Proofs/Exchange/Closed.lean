import RpcLink.Proofs.Exchange.Placement
import RpcLink.Proofs.Exchange.Resolution

/-!
Channels that were closed. A closed channel was closed by one action, which rejected the calls that
waited then and was reported once. It stays closed, and nothing is registered on it any more.
-/

namespace RpcLink

/-- Whether it was observed that a channel closed. -/
def Observation.isClosing : Observation → Bool
  | .closed .. => true
  | _ => false

namespace Switchboard

/-- What is observed on a channel in a run, in order. -/
def reports (x : Nat) (b : Switchboard) : List Action → List Observation
  | [] => []
  | a :: as =>
    (if a.channel? = some x then (b.act a).log.drop b.log.length else []) ++ (b.act a).reports x as

theorem reports_append (x : Nat) (b : Switchboard) (as bs : List Action) :
    b.reports x (as ++ bs) = b.reports x as ++ (b.run as).reports x bs := by
  induction as generalizing b with
  | nil => rfl
  | cons a as ih =>
      rw [List.cons_append, reports, reports, ih, List.append_assoc]
      rfl

/-! ### What is noted -/

theorem resolveAll_log (b : Switchboard) (calls : List Nat) (status : CallStatus Response) :
    (b.resolveAll calls status).log = b.log := by
  rw [resolveAll_eq]

theorem drawFor_log (b : Switchboard) (x : Nat) : (b.drawFor x).2.log = b.log := by
  unfold drawFor
  split <;> rfl

theorem register_log (b : Switchboard) (x : Nat) (method : String) (params : Json) :
    (b.register x method params).2.log = b.log := by
  unfold register
  split
  · rfl
  · exact b.drawFor_log x

theorem deliver_log (b : Switchboard) (x : Nat) (r : Response) :
    (b.deliver x r).2.log = b.log ∨ (b.deliver x r).2.log = b.log ++ [.unmatched r.id] := by
  unfold deliver
  split
  · exact .inl rfl
  · exact .inr rfl

theorem forget_log (b : Switchboard) (x : Nat) (id : UInt64) : (b.forget x id).2.log = b.log := by
  unfold forget
  split <;> rfl

/-- An action notes that a channel closed if it closes one, and then once. -/
theorem perform_log (b : Switchboard) (a : Action) :
    (b.perform a).log = b.log ∨ (∃ id, (b.perform a).log = b.log ++ [.unmatched id]) ∨
      ∃ x reason, a = .abort x reason ∧ (b.exchange x).closed = none ∧
        (b.perform a).log = b.log ++ [.closed reason (b.exchange x).waiting.length] := by
  have settled : ∀ {b' call}, b' = b ∨ b' = b.settle call → b'.log = b.log := by
    rintro b' call (rfl | rfl) <;> rfl
  cases a with
  | openExchange => exact .inl rfl
  | draw => exact .inl rfl
  | register x method params => exact .inl (b.register_log x method params)
  | deliver x response =>
      rcases b.deliver_log x response with same | unmatched
      · exact .inl same
      · exact .inr (.inl ⟨_, unmatched⟩)
  | abort x reason =>
      show (b.abort x reason).2.log = _ ∨ _
      cases closed : (b.exchange x).closed with
      | some first =>
          rw [abort_of_closed closed]
          exact .inl rfl
      | none =>
          refine .inr (.inr ⟨x, reason, rfl, closed, ?_⟩)
          show (b.abort x reason).2.log = _
          rw [abort_of_open closed, observe, resolveAll_log]
          rfl
  | forget x id => exact .inl (b.forget_log x id)
  | drop x => exact .inl (resolveAll_log ..)
  | poll call => exact .inl (settled (b.poll_board call))
  | expire call ns => exact .inl (settled (b.expire_board call ns))
  | forsake call => exact .inl rfl

section

variable {b : Switchboard} {x : Nat} {reason : String}

/-- An action that closes no channel notes no closing. -/
theorem act_closings (a : Action) :
    ((b.act a).log.drop b.log.length).filter Observation.isClosing = [] ∨
      ∃ x reason, a = .abort x reason ∧ (b.exchange x).dropped = false ∧
        (b.exchange x).closed = none := by
  by_cases gone : a.channel?.any fun x => (b.exchange x).dropped
  · left
    simp [act, gone]
  · have same : b.act a = b.perform a := if_neg gone
    rw [same]
    rcases b.perform_log a with same | ⟨id, unmatched⟩ | ⟨x, reason, rfl, closed, -⟩
    · simp [same]
    · simp [unmatched, Observation.isClosing]
    · exact .inr ⟨x, reason, rfl, by simpa [Action.channel?] using gone, closed⟩

/-! ### Closing -/

theorem act_abort (there : (b.exchange x).dropped = false) (opened : (b.exchange x).closed = none) :
    b.act (.abort x reason) =
      ((b.setExchange x { b.exchange x with closed := some reason, waiting := [] }).resolveAll
        ((b.exchange x).waiting.map Prod.snd) (.rejected reason)).observe
          (.closed reason (b.exchange x).waiting.length) := by
  rw [act_of_there rfl there, perform, abort_of_open opened]

theorem act_abort_closed (reason : String) (there : (b.exchange x).dropped = false)
    (opened : (b.exchange x).closed = none) :
    ((b.act (.abort x reason)).exchange x).closed = some reason := by
  rw [act_abort there opened, observe_exchange, resolveAll_exchange, exchange_setExchange,
    if_pos ⟨rfl, lt_of_not_dropped there⟩]

/-- A call that waits on a channel is rejected when the channel is closed. -/
theorem act_abort_call (h : b.Placed) (reason : String) (there : (b.exchange x).dropped = false)
    (opened : (b.exchange x).closed = none) {id : UInt64} {call : Nat}
    (waits : (id, call) ∈ (b.exchange x).waiting) :
    ∃ c, (b.act (.abort x reason)).calls[call]? = some c ∧ c.exchange = x ∧ c.id = id ∧
      c.status = .rejected reason := by
  obtain ⟨c, found, place, number, -⟩ := h.call_of_mem waits
  have rejected : call ∈ (b.exchange x).waiting.map Prod.snd :=
    List.mem_map.mpr ⟨(id, call), waits, rfl⟩
  refine ⟨{ c with status := .rejected reason }, ?_, place, number, rfl⟩
  rw [act_abort there opened, observe_calls, resolveAll_getElem?, setExchange_calls, found,
    Option.map_some, if_pos rejected]

/-- Only closing a channel closes it. -/
theorem perform_closes (opened : (b.exchange x).closed = none) {a : Action}
    (closed : ((b.perform a).exchange x).closed = some reason) : a = .abort x reason := by
  have stays : ((b.perform a).exchange x).closed = (b.exchange x).closed → a = .abort x reason := by
    intro same
    rw [same, opened] at closed
    cases closed
  cases a with
  | openExchange =>
      refine stays ?_
      show (b.openExchange.exchange x).closed = _
      rw [exchange_openExchange]
      split
      · exact opened.symm
      · rfl
  | draw => exact stays rfl
  | register y method params => exact stays (b.register_closed y x method params)
  | deliver y r => exact stays ((b.shrinks_deliver y r).closed_eq x)
  | abort y later =>
      by_cases same : x = y
      · subst same
        have shape : ((b.perform (.abort x later)).exchange x) =
            ((b.abort x later).2.exchange x) := rfl
        rw [shape, abort_of_open opened, observe_exchange, resolveAll_exchange,
          exchange_setExchange] at closed
        split at closed
        · rw [Option.some.inj closed]
        · rw [opened] at closed
          cases closed
      · exact stays (congrArg Exchange.closed (b.abort_exchange_of_ne y x later same))
  | forget y id => exact stays ((b.shrinks_forget y id).closed_eq x)
  | drop y => exact stays (b.drop_closed y x)
  | poll call => exact stays ((b.shrinks_poll call).closed_eq x)
  | expire call ns => exact stays ((b.shrinks_expire call ns).closed_eq x)
  | forsake call => exact stays rfl

theorem act_closes (opened : (b.exchange x).closed = none) {a : Action}
    (closed : ((b.act a).exchange x).closed = some reason) :
    a = .abort x reason ∧ (b.exchange x).dropped = false := by
  by_cases gone : a.channel?.any fun x => (b.exchange x).dropped
  · simp only [act, gone, if_true, opened] at closed
    cases closed
  · have same : b.act a = b.perform a := if_neg gone
    rw [same] at closed
    obtain rfl := perform_closes opened closed
    exact ⟨rfl, by simpa [Action.channel?] using gone⟩

/-- No closing of a closed channel is reported. -/
theorem reports_of_closed (closed : (b.exchange x).closed = some reason) (as : List Action) :
    (b.reports x as).filter Observation.isClosing = [] := by
  induction as generalizing b with
  | nil => rfl
  | cons a as ih =>
      have rest := ih (b := b.act a) (run_closed closed [a])
      rw [reports, List.filter_append, rest, List.append_nil]
      split
      · rename_i here
        rcases b.act_closings a with nothing | ⟨y, later, rfl, -, opened⟩
        · exact nothing
        · obtain rfl := Option.some.inj here
          rw [closed] at opened
          cases opened
      · rfl

/-- A channel that was open and is closed was closed by one action in between, before which no
closing of it was reported. -/
theorem exists_abort {as : List Action} (opened : (b.exchange x).closed = none)
    (closed : ((b.run as).exchange x).closed = some reason) :
    ∃ before after, as = before ++ .abort x reason :: after ∧
      ((b.run before).exchange x).dropped = false ∧
      ((b.run before).exchange x).closed = none ∧
      (b.reports x before).filter Observation.isClosing = [] := by
  induction as generalizing b with
  | nil =>
      have closed : (b.exchange x).closed = some reason := closed
      rw [opened] at closed
      cases closed
  | cons a as ih =>
      cases next : ((b.act a).exchange x).closed with
      | some first =>
          obtain ⟨rfl, there⟩ := act_closes opened next
          have same := (run_closed next as).symm.trans closed
          obtain rfl := Option.some.inj same
          exact ⟨[], as, rfl, there, opened, rfl⟩
      | none =>
          obtain ⟨before, after, rfl, there, stillOpen, nothing⟩ := ih next closed
          refine ⟨a :: before, after, rfl, there, stillOpen, ?_⟩
          rw [reports, List.filter_append, nothing, List.append_nil]
          split
          · rename_i here
            rcases b.act_closings a with nothing | ⟨y, later, rfl, present, -⟩
            · exact nothing
            · obtain rfl := Option.some.inj here
              rw [act_abort_closed _ present opened] at next
              cases next
          · rfl

end

/-! ### Channels that are gone -/

section

variable {b : Switchboard} {x : Nat}

/-- A channel that is there stays there unless it is let go of. -/
theorem act_there (there : (b.exchange x).dropped = false) {a : Action} (kept : a ≠ .drop x) :
    ((b.act a).exchange x).dropped = false := by
  unfold act
  split
  · exact there
  · cases a with
    | openExchange =>
        show (b.openExchange.exchange x).dropped = false
        rw [exchange_openExchange]
        split
        · rfl
        · exact there
    | draw => exact there
    | register y method params => exact (b.register_dropped y x method params).trans there
    | deliver y r => exact ((b.shrinks_deliver y r).dropped_eq x).trans there
    | abort y reason => exact (b.abort_dropped y x reason).trans there
    | forget y id => exact ((b.shrinks_forget y id).dropped_eq x).trans there
    | drop y =>
        have other : x ≠ y := fun same => kept (same ▸ rfl)
        show ((b.drop y).exchange x).dropped = false
        rw [drop, resolveAll_exchange, exchange_setExchange, if_neg fun here => other here.1]
        exact there
    | poll call => exact ((b.shrinks_poll call).dropped_eq x).trans there
    | expire call ns => exact ((b.shrinks_expire call ns).dropped_eq x).trans there
    | forsake call => exact there

end

/-- A channel that is closed was closed by one action. From then on it stays closed for that reason:
nothing is registered on it and no number is drawn for it, deliveries and closings do nothing, and
nobody waits. The action rejected exactly the calls that waited, which stay rejected, and of all
that is observed on the channel only this tells of its closing. -/
theorem closed_channel_stays_closed {as : List Action} {x : Nat} {reason : String}
    (closed : ((run {} as).exchange x).closed = some reason) :
    (∀ more, let b := run {} (as ++ more)
      (b.exchange x).closed = some reason ∧ (b.exchange x).isOpen = false ∧
      (b.exchange x).waiting = [] ∧
      (∀ method params, b.register x method params = (.error (.channelClosed reason), b)) ∧
      (∀ r, b.deliver x r = (false, b.observe (.unmatched r.id))) ∧
      (∀ id, b.forget x id = (false, b)) ∧
      ∀ later, b.abort x later = (0, b)) ∧
    ∃ before after, as = before ++ .abort x reason :: after ∧
      let b := run {} before
      let waiting := (b.exchange x).waiting
      (b.exchange x).dropped = false ∧ (b.exchange x).isOpen = true ∧
      (b.abort x reason).1 = waiting.length ∧ (waiting.map Prod.snd).Nodup ∧
      (∀ id call, (id, call) ∈ waiting → ∀ more, ∃ c,
        (run {} (as ++ more)).calls[call]? = some c ∧ c.exchange = x ∧ c.id = id ∧
        c.status = .rejected reason ∧
        (c.settled = false → ((run {} (as ++ more)).poll call).1 =
          .done (.error (.channelClosed reason)))) ∧
      ∀ more, (reports x {} (as ++ more)).filter Observation.isClosing =
        [.closed reason waiting.length] := by
  constructor
  · intro more b
    have still : (b.exchange x).closed = some reason := by
      show ((run {} (as ++ more)).exchange x).closed = _
      rw [run_append]
      exact run_closed closed more
    have isClosed : (b.exchange x).closed.isSome := by rw [still]; rfl
    have empty : (b.exchange x).waiting = [] :=
      (placed_empty.run (as ++ more)).placed.closed_waiting isClosed
    have nobody : ∀ w, w ∉ (b.exchange x).waiting := by simp [empty]
    exact ⟨still, by simp [Exchange.isOpen, still], empty, fun _ _ => register_of_closed still,
      fun r => deliver_of_not_mem fun id k _ => nobody (id, k),
      fun id => forget_of_not_mem fun k => nobody (id, k), abort_of_closed still⟩
  · obtain ⟨before, after, rfl, there, opened, nothing⟩ := exists_abort rfl closed
    refine ⟨before, after, rfl, ?_⟩
    intro b waiting
    have placed : b.Placed := (placed_empty.run before).placed
    refine ⟨there, by simp [Exchange.isOpen, b, opened], ?_, placed.calls_distinct x, ?_, ?_⟩
    · rw [abort_of_open opened]
    · intro id call waits more
      obtain ⟨c, found, place, number, status⟩ :=
        act_abort_call placed reason there opened waits
      have follows := (placed.act (.abort x reason)).placed.run (after ++ more)
      obtain ⟨settled, found'⟩ := follows.resolved found (by simp [status])
      have shape : run {} (before ++ .abort x reason :: after ++ more) =
          (b.act (.abort x reason)).run (after ++ more) := by
        rw [List.append_assoc, run_append]
        rfl
      rw [shape]
      refine ⟨_, found', place, number, status, fun awaited => ?_⟩
      rw [poll_of_awaited found' awaited]
      simp [status, Standing.ofStatus]
    · intro more
      have closing := act_abort_closed reason there opened
      rw [List.append_assoc, reports_append, List.filter_append, nothing, List.cons_append, reports,
        List.filter_append, reports_of_closed closing, act_abort there opened, observe,
        resolveAll_log]
      simp [Action.channel?, Observation.isClosing, setExchange, b, waiting]

/-- A channel that is closed over two calls: what is done to it afterwards changes nothing, and a
channel that is opened then is another one. -/
theorem channel_closed_over_two_calls_stays_closed :
    let as : List Action := [.openExchange, .register 0 "status" .null, .register 0 "echo" .null,
      .abort 0 "exited"]
    let more : List Action := [.deliver 0 (.success 1 .null), .forget 0 2,
      .abort 0 "client stopped", .openExchange, .register 1 "status" .null]
    ((run {} as).exchange 0).closed = some "exited" ∧
      (run {} (as ++ more)).register 0 "status" .null =
        (.error (.channelClosed "exited"), run {} (as ++ more)) ∧
      (run {} (as ++ more)).status? 0 = some (.rejected "exited") ∧
      (reports 0 {} (as ++ more)).filter Observation.isClosing = [.closed "exited" 2] := by
  intro as more
  have closed : ((run {} as).exchange 0).closed = some "exited" := by decide
  obtain ⟨stays, before, after, shape, -, -, -, -, rejected, once⟩ :=
    closed_channel_stays_closed closed
  obtain ⟨-, -, -, refused, -⟩ := stays more
  obtain rfl : before = as.take 3 := by
    rcases before with _ | ⟨a, _ | ⟨b, _ | ⟨c, _ | ⟨d, rest⟩⟩⟩⟩ <;> simp_all [as]
  obtain ⟨c, found, -, -, status, -⟩ := rejected 1 0 (by decide) more
  refine ⟨closed, refused "status" .null, ?_, once more⟩
  rw [status?, found, Option.map_some, status]

end Switchboard

end RpcLink
