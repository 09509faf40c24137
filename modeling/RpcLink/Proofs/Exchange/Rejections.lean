import RpcLink.Proofs.Exchange.Placement

/-!
What a rejected call is told. A call is rejected only with the reason for which its own channel was
closed, and it is withdrawn only by whoever registered it, at once.
-/

namespace RpcLink.Switchboard

/-- Those that wait are in their places, and whoever was rejected was told why the channel was
closed. -/
structure Truthful (b : Switchboard) : Prop where
  placed : b.Placed
  told : ∀ {k : Nat} {c : Call} {reason : String}, b.calls[k]? = some c →
    c.status = .rejected reason → (b.exchange c.exchange).closed = some reason

/-- What comes of a switchboard: rejections stay truthful, and no call that there was is withdrawn
or moved. -/
structure Upholds (b b' : Switchboard) : Prop where
  truthful : b'.Truthful
  kept : ∀ {k : Nat} {c : Call}, b.calls[k]? = some c →
    ∃ d : Call, b'.calls[k]? = some d ∧ d.exchange = c.exchange ∧
      (c.status ≠ .orphaned → d.status ≠ .orphaned)

theorem truthful_empty : Truthful {} where
  placed := placed_empty
  told := by simp

theorem Upholds.trans {b b' b'' : Switchboard} (first : Upholds b b') (second : Upholds b' b'') :
    Upholds b b'' where
  truthful := second.truthful
  kept found := by
    obtain ⟨d, found', place, present⟩ := first.kept found
    obtain ⟨e, found'', place', present'⟩ := second.kept found'
    exact ⟨e, found'', place'.trans place, present' ∘ present⟩

namespace Truthful

variable {b b' : Switchboard}

theorem upholds_refl (h : b.Truthful) : Upholds b b := ⟨h, fun found => ⟨_, found, rfl, id⟩⟩

/-- What closes no channel again, and rejects those that waited with the reason of their channel. -/
theorem of_follows (h : b.Truthful) (follows : Follows b b')
    (closed : ∀ {x reason}, (b.exchange x).closed = some reason →
      (b'.exchange x).closed = some reason)
    (waited : ∀ {k : Nat} {c : Call}, b.calls[k]? = some c → c.status = .waiting →
      ∃ d : Call, b'.calls[k]? = some d ∧ d.exchange = c.exchange ∧ d.status ≠ .orphaned ∧
        ∀ reason, d.status = .rejected reason → (b'.exchange c.exchange).closed = some reason)
    (older : ∀ {k : Nat} {d : Call} {reason : String}, b'.calls[k]? = some d →
      d.status = .rejected reason → k < b.calls.length) : Upholds b b' where
  truthful.placed := follows.placed
  truthful.told := by
    intro k d reason found rejected
    obtain ⟨c, before⟩ : ∃ c, b.calls[k]? = some c :=
      ⟨_, List.getElem?_eq_getElem (older found rejected)⟩
    by_cases waits : c.status = .waiting
    · obtain ⟨d', found', place, -, told⟩ := waited before waits
      obtain rfl := Option.some.inj (found.symm.trans found')
      rw [place]
      exact told reason rejected
    · obtain ⟨settled, found'⟩ := follows.resolved before waits
      obtain rfl := Option.some.inj (found.symm.trans found')
      show (b'.exchange c.exchange).closed = some reason
      exact closed (h.told before rejected)
  kept := by
    intro k c found
    by_cases waits : c.status = .waiting
    · obtain ⟨d, found', place, present, -⟩ := waited found waits
      exact ⟨d, found', place, fun _ => present⟩
    · obtain ⟨settled, found'⟩ := follows.resolved found waits
      exact ⟨_, found', rfl, id⟩

/-- What resolves no call. -/
theorem of_settled (h : b.Truthful) (follows : Follows b b')
    (closed : ∀ x, (b'.exchange x).closed = (b.exchange x).closed)
    (calls : ∀ {k : Nat} {c : Call}, b.calls[k]? = some c →
      ∃ settled, b'.calls[k]? = some { c with settled })
    (count : b'.calls.length = b.calls.length) : Upholds b b' := by
  refine h.of_follows follows (fun before => (closed _).trans before) (fun found waits => ?_)
    fun found _ => ?_
  · obtain ⟨settled, found'⟩ := calls found
    exact ⟨_, found', rfl, by simp [waits], by simp [waits]⟩
  · rw [← count]
    exact (List.getElem?_eq_some_iff.mp found).1

theorem openExchange (h : b.Truthful) : Upholds b b.openExchange := by
  refine h.of_settled h.placed.openExchange (fun x => ?_) (fun found => ⟨_, found⟩) rfl
  rw [exchange_openExchange]
  split
  · rename_i last
    simp [exchange, last]
  · rfl

theorem settle (h : b.Truthful) (call : Nat) : Upholds b (b.settle call) := by
  refine h.of_settled (h.placed.settle call) (fun _ => rfl) (fun found => ?_)
    (b.shrinks_settle call).calls_length_eq
  rw [settle_getElem?, found]
  exact ⟨_, rfl⟩

theorem poll (h : b.Truthful) (call : Nat) : Upholds b (b.poll call).2 := by
  rcases b.poll_board call with unchanged | changed
  · rw [unchanged]
    exact h.upholds_refl
  · rw [changed]
    exact h.settle call

theorem observe (h : b.Truthful) (o : Observation) : Upholds b (b.observe o) :=
  h.of_settled (h.placed.observe o) (fun _ => rfl) (fun found => ⟨_, found⟩) rfl

theorem register (h : b.Truthful) (x : Nat) (method : String) (params : Json) :
    Upholds b (b.register x method params).2 := by
  cases closed : (b.exchange x).closed with
  | some reason =>
      rw [register_of_closed closed]
      exact h.upholds_refl
  | none =>
      obtain ⟨id, -, calls, -⟩ := b.register_waiting method params closed
      apply h.of_follows (h.placed.register x method params)
      case closed =>
        intro y reason before
        rw [register_closed]
        exact before
      case waited =>
        intro k c found waits
        refine ⟨c, ?_, rfl, by simp [waits], by simp [waits]⟩
        rw [calls]
        exact getElem?_append_call.mpr (.inl found)
      case older =>
        intro k d reason found rejected
        rw [calls] at found
        rcases getElem?_append_call.mp found with old | ⟨-, rfl⟩
        · exact (List.getElem?_eq_some_iff.mp old).1
        · cases rejected

/-- A request is registered and then withdrawn: its call is there, and the others are as they
were. -/
theorem withdraw (h : b.Truthful) {x call : Nat} {method : String} {params : Json}
    {request : Request} {board : Switchboard} (inside : x < b.exchanges.length)
    (registered : b.register x method params = (.ok (request, call), board)) :
    Upholds b (board.forget x request.id).2 ∧
      (board.forget x request.id).2.calls =
        b.calls ++ [{ exchange := x, id := request.id, status := .orphaned }] := by
  have follows := h.placed.register x method params
  have closings := fun y => b.register_closed x y method params
  rw [registered] at follows closings
  obtain ⟨-, rfl, calls, waiting⟩ := of_registered registered
  have waits : (request.id, b.calls.length) ∈ (board.exchange x).waiting := by
    rw [waiting, if_pos ⟨rfl, inside⟩]
    simp
  have after : (board.forget x request.id).2.calls =
      b.calls ++ [{ exchange := x, id := request.id, status := .orphaned }] := by
    rw [forget_of_lookup (follows.placed.lookup_eq waits)]
    apply List.ext_getElem?
    intro k
    rw [resolveAll_getElem?, setExchange_calls, calls]
    rcases Nat.lt_trichotomy k b.calls.length with less | rfl | more
    · rw [List.getElem?_append_left less, List.getElem?_append_left less,
        List.getElem?_eq_getElem less, Option.map_some, if_neg]
      simp [Nat.ne_of_lt less]
    · simp
    · rw [List.getElem?_eq_none (by simp; omega), List.getElem?_eq_none (by simp; omega),
        Option.map_none]
  refine ⟨?_, after⟩
  apply h.of_follows (follows.trans (follows.placed.forget x request.id))
  case closed =>
    intro y reason before
    rw [(board.shrinks_forget x request.id).closed_eq, closings]
    exact before
  case waited =>
    intro k c found waited
    refine ⟨c, ?_, rfl, by simp [waited], by simp [waited]⟩
    rw [after]
    exact getElem?_append_call.mpr (.inl found)
  case older =>
    intro k d reason found rejected
    rw [after] at found
    rcases getElem?_append_call.mp found with old | ⟨-, rfl⟩
    · exact (List.getElem?_eq_some_iff.mp old).1
    · cases rejected

theorem deliver (h : b.Truthful) (x : Nat) (r : Response) : Upholds b (b.deliver x r).2 := by
  have count := (b.shrinks_deliver x r).calls_length_eq
  apply h.of_follows (h.placed.deliver x r)
  case closed =>
    intro y reason before
    rw [(b.shrinks_deliver x r).closed_eq]
    exact before
  case waited =>
    intro k c found waits
    by_cases answers : ∃ id j, r.id = some id ∧ (b.exchange x).waiting.lookup id = some j
    · obtain ⟨id, j, number, there⟩ := answers
      rw [deliver_of_lookup number there, resolveAll_getElem?, setExchange_calls, found,
        Option.map_some]
      refine ⟨_, rfl, ?_⟩
      split
      · simp
      · simp [waits]
    · rw [deliver_of_not_mem]
      · exact ⟨c, found, rfl, by simp [waits], by simp [waits]⟩
      · intro id j number member
        exact answers ⟨id, j, number, h.placed.lookup_eq member⟩
  case older =>
    intro k d reason found rejected
    rw [← count]
    exact (List.getElem?_eq_some_iff.mp found).1

theorem dispatch (h : b.Truthful) (x : Nat) (frame : Framing.Frame) :
    Upholds b (b.dispatch x frame) := by
  unfold Switchboard.dispatch
  split
  · split
    · exact h.deliver x _
    · exact h.observe _
  · exact h.observe _

theorem dispatchAll (h : b.Truthful) (x : Nat) (frames : List Framing.Frame) :
    Upholds b (b.dispatchAll x frames) := by
  induction frames generalizing b with
  | nil => exact h.upholds_refl
  | cons frame frames ih => exact (h.dispatch x frame).trans (ih (h.dispatch x frame).truthful)

/-- Those that wait on a channel are rejected with the reason for which it is closed. -/
theorem abort (h : b.Truthful) (x : Nat) (reason : String) : Upholds b (b.abort x reason).2 := by
  apply h.of_follows (h.placed.abort x reason)
  case closed => exact fun before => b.abort_closed x _ reason before
  case waited =>
    intro k c found waits
    cases closed : (b.exchange x).closed with
    | some first =>
        rw [abort_of_closed closed]
        exact ⟨c, found, rfl, by simp [waits], by simp [waits]⟩
    | none =>
        rw [abort_of_open closed, observe_calls, resolveAll_getElem?, setExchange_calls, found,
          Option.map_some]
        refine ⟨_, rfl, ?_⟩
        split
        · rename_i member
          obtain ⟨⟨id, j⟩, there, rfl⟩ := List.mem_map.mp member
          obtain ⟨d, found', place, -⟩ := h.placed.call_of_mem there
          obtain rfl := Option.some.inj (found.symm.trans found')
          refine ⟨rfl, by simp, fun other same => ?_⟩
          rw [observe_exchange, resolveAll_exchange, exchange_setExchange,
            if_pos ⟨place, lt_of_mem_waiting there⟩]
          cases same
          rfl
        · simp [waits]
  case older =>
    intro k d other found rejected
    rw [← b.abort_calls_length x reason]
    exact (List.getElem?_eq_some_iff.mp found).1

end Truthful

end RpcLink.Switchboard
