import RpcLink.Proofs.Exchange.Placement

/-!
Which calls were registered on which channel. Only a registration adds to them, at their end;
whatever else is done to a switchboard leaves each call on its channel and under its number.
-/

namespace RpcLink.Switchboard

/-- The channels and the numbers of the calls, in the order of their registration. -/
def routes (b : Switchboard) : List (Nat × UInt64) := b.calls.map fun c => (c.exchange, c.id)

/-- The calls that were registered on a channel, by place. -/
def callsOn (b : Switchboard) (x : Nat) : List Nat :=
  (List.range b.routes.length).filter fun k => b.routes[k]?.any fun r => r.1 == x

/-- The number under which a call was registered. -/
def number? (b : Switchboard) (call : Nat) : Option UInt64 := b.routes[call]?.map Prod.snd

/-- No call was registered, no channel was opened, and none that was closed is open. -/
structure Keeps (b b' : Switchboard) : Prop where
  routes_eq : b'.routes = b.routes
  length_eq : b'.exchanges.length = b.exchanges.length
  closed : ∀ x, (b.exchange x).closed.isSome → (b'.exchange x).closed.isSome

/-- A call was registered on an open channel for a request, and nothing else was done. -/
structure Registers (b : Switchboard) (x : Nat) (request : Request) (call : Nat)
    (b' : Switchboard) : Prop where
  opened : (b.exchange x).closed = none
  place : call = b.routes.length
  routes_eq : b'.routes = b.routes ++ [(x, request.id)]
  length_eq : b'.exchanges.length = b.exchanges.length
  closed_eq : ∀ y, (b'.exchange y).closed = (b.exchange y).closed

section

variable {b b' b'' : Switchboard} {x : Nat}

/-! ### Calls on a channel -/

theorem callsOn_of_routes_eq (same : b'.routes = b.routes) (x : Nat) :
    b'.callsOn x = b.callsOn x := by
  rw [callsOn, callsOn, same]

theorem number?_of_routes_eq (same : b'.routes = b.routes) (call : Nat) :
    b'.number? call = b.number? call := by
  rw [number?, number?, same]

/-- A call that has a number keeps it, whatever is registered later. -/
theorem number?_of_prefix (more : b.routes <+: b'.routes) {call : Nat} {id : UInt64}
    (numbered : b.number? call = some id) : b'.number? call = some id := by
  obtain ⟨route, found, number⟩ := Option.map_eq_some_iff.mp numbered
  obtain ⟨later, extended⟩ := more
  have inside : call < b.routes.length := (List.getElem?_eq_some_iff.mp found).1
  refine Option.map_eq_some_iff.mpr ⟨route, ?_, number⟩
  rw [← extended, List.getElem?_append_left inside, found]

/-- No call is registered twice. -/
theorem callsOn_nodup (b : Switchboard) (x : Nat) : (b.callsOn x).Nodup :=
  List.nodup_range.filter _

/-- One more route is one more call on its channel. -/
theorem callsOn_concat {id : UInt64} (more : b'.routes = b.routes ++ [(x, id)]) (y : Nat) :
    b'.callsOn y = b.callsOn y ++ if x = y then [b.routes.length] else [] := by
  have old : ∀ k ∈ List.range b.routes.length,
      (b.routes ++ [(x, id)])[k]?.any (fun r => r.1 == y) = b.routes[k]?.any fun r => r.1 == y := by
    intro k member
    rw [List.getElem?_append_left (List.mem_range.mp member)]
  rw [callsOn, more, List.length_append, List.length_singleton, List.range_succ,
    List.filter_append, List.filter_congr old]
  congr 1
  by_cases same : x = y <;> simp [same]

/-- A call on a channel has its route there. -/
theorem route_of_mem_callsOn {k : Nat} (member : k ∈ b.callsOn x) :
    ∃ r ∈ b.routes, r.1 = x := by
  have there := (List.mem_filter.mp member).2
  obtain ⟨r, found, here⟩ := (Option.any_eq_true _ _).mp there
  exact ⟨r, List.mem_of_getElem? found, beq_iff_eq.mp here⟩

end

/-! ### What is done to calls that are there -/

namespace Keeps

variable {b b' b'' : Switchboard}

theorem refl (b : Switchboard) : Keeps b b := ⟨rfl, rfl, fun _ closed => closed⟩

theorem trans (first : Keeps b b') (second : Keeps b' b'') : Keeps b b'' where
  routes_eq := second.routes_eq.trans first.routes_eq
  length_eq := second.length_eq.trans first.length_eq
  closed x closed := second.closed x (first.closed x closed)

theorem of_shrinks (shrinks : Shrinks b b') (same : b'.routes = b.routes) : Keeps b b' where
  routes_eq := same
  length_eq := shrinks.length_eq
  closed x closed := by rwa [shrinks.closed_eq x]

end Keeps

section

variable (b : Switchboard)

/-- Changing calls one by one leaves them on their channels. -/
theorem routes_modify {calls : List Call} {k : Nat} {f : Call → Call}
    (same : ∀ c, ((f c).exchange, (f c).id) = (c.exchange, c.id)) :
    ((calls.modify k f).map fun c => (c.exchange, c.id)) =
      calls.map fun c => (c.exchange, c.id) := by
  apply List.ext_getElem?
  intro i
  rw [List.getElem?_map, List.getElem?_map, List.getElem?_modify]
  cases calls[i]? with
  | none => simp
  | some c => by_cases here : k = i <;> simp [here, same]

@[simp] theorem resolve_routes (call : Nat) (status : CallStatus Response) :
    (b.resolve call status).routes = b.routes := routes_modify fun _ => rfl

@[simp] theorem resolveAll_routes (calls : List Nat) (status : CallStatus Response) :
    (b.resolveAll calls status).routes = b.routes := by
  induction calls generalizing b with
  | nil => rfl
  | cons call rest ih => exact (ih (b.resolve call status)).trans (b.resolve_routes call status)

theorem keeps_settle (call : Nat) : Keeps b (b.settle call) :=
  .of_shrinks (b.shrinks_settle call) (routes_modify fun _ => rfl)

theorem keeps_poll (call : Nat) : Keeps b (b.poll call).2 := by
  rcases b.poll_board call with same | settled
  · rw [same]
    exact .refl b
  · rw [settled]
    exact b.keeps_settle call

theorem keeps_observe (o : Observation) : Keeps b (b.observe o) :=
  ⟨rfl, rfl, fun _ closed => closed⟩

theorem keeps_deliver (x : Nat) (r : Response) : Keeps b (b.deliver x r).2 := by
  refine .of_shrinks (b.shrinks_deliver x r) ?_
  unfold deliver
  split
  · exact resolve_routes _ _ _
  · rfl

theorem keeps_forget (x : Nat) (id : UInt64) : Keeps b (b.forget x id).2 := by
  refine .of_shrinks (b.shrinks_forget x id) ?_
  unfold forget
  split
  · exact resolve_routes _ _ _
  · rfl

theorem keeps_dispatch (x : Nat) (frame : Framing.Frame) : Keeps b (b.dispatch x frame) := by
  unfold dispatch
  split
  · split
    · exact b.keeps_deliver x _
    · exact b.keeps_observe _
  · exact b.keeps_observe _

theorem keeps_dispatchAll (x : Nat) (frames : List Framing.Frame) :
    Keeps b (b.dispatchAll x frames) := by
  induction frames generalizing b with
  | nil => exact .refl b
  | cons frame frames ih => exact (b.keeps_dispatch x frame).trans (ih (b.dispatch x frame))

theorem keeps_abort (x : Nat) (reason : String) : Keeps b (b.abort x reason).2 where
  routes_eq := by
    cases closed : (b.exchange x).closed with
    | some first => rw [abort_of_closed closed]
    | none =>
        rw [abort_of_open closed]
        exact resolveAll_routes _ _ _
  length_eq := b.abort_exchanges_length x reason
  closed y closed := by
    obtain ⟨first, was⟩ := Option.isSome_iff_exists.mp closed
    rw [b.abort_closed x y reason was]
    rfl

/-- A channel that is there is closed when it has been aborted. -/
theorem abort_closed_isSome {x : Nat} (inside : x < b.exchanges.length) (reason : String) :
    ((b.abort x reason).2.exchange x).closed.isSome := by
  cases closed : (b.exchange x).closed with
  | some first =>
      rw [b.abort_closed x x reason closed]
      rfl
  | none =>
      rw [abort_of_open closed, observe_exchange, resolveAll_exchange, exchange_setExchange,
        if_pos ⟨rfl, inside⟩]
      rfl

/-! ### Registrations and new channels -/

/-- A call is registered, or its channel is closed. -/
theorem register_cases (x : Nat) (method : String) (params : Json) :
    (∃ reason, (b.exchange x).closed = some reason ∧
        b.register x method params = (.error (.channelClosed reason), b)) ∨
      ∃ (id : UInt64) (call : Nat) (board : Switchboard),
        b.register x method params = (.ok ({ id, method, params }, call), board) ∧
          Registers b x { id, method, params } call board := by
  cases closed : (b.exchange x).closed with
  | some reason => exact .inl ⟨reason, rfl, register_of_closed closed⟩
  | none =>
      obtain ⟨id, made, calls, -⟩ := b.register_waiting method params closed
      refine .inr ⟨id, b.calls.length, (b.register x method params).2, Prod.ext made rfl, ?_⟩
      exact {
        opened := closed
        place := by simp [routes]
        routes_eq := by simp [routes, calls]
        length_eq := b.register_exchanges_length x method params
        closed_eq := fun y => b.register_closed x y method params }

theorem openExchange_closed (y : Nat) :
    (b.openExchange.exchange y).closed = (b.exchange y).closed := by
  rw [exchange_openExchange]
  split
  · rename_i beyond
    simp [exchange, beyond]
  · rfl

end

end RpcLink.Switchboard
