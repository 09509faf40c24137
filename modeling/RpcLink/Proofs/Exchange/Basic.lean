import RpcLink.Exchange.Switchboard

/-!
What the operations of a switchboard change, part by part: the exchanges, the calls, the next
number. Later proofs use these facts and do not open the operations again.
-/

namespace RpcLink

/-! ### Exchanges -/

namespace Exchange

theorem take_of_lookup {x : Exchange} {id : UInt64} {call : Nat}
    (found : x.waiting.lookup id = some call) :
    x.take id = (some call, { x with waiting := x.waiting.filter fun w => w.1 != id }) := by
  simp [take, found]

theorem take_of_lookup_none {x : Exchange} {id : UInt64} (absent : x.waiting.lookup id = none) :
    x.take id = (none, x) := by
  simp [take, absent]

theorem mem_of_lookup {waiting : List (UInt64 × Nat)} {id : UInt64} {call : Nat}
    (found : waiting.lookup id = some call) : (id, call) ∈ waiting := by
  obtain ⟨before, after, rfl, -⟩ := List.lookup_eq_some_iff.mp found
  simp

theorem not_mem_of_lookup_none {waiting : List (UInt64 × Nat)} {id : UInt64}
    (absent : waiting.lookup id = none) (call : Nat) : (id, call) ∉ waiting := by
  intro member
  have := List.lookup_eq_none_iff.mp absent _ member
  simp at this

end Exchange

namespace Switchboard

/-! ### One exchange is changed -/

section Set

variable (b : Switchboard) (x y : Nat) (e : Exchange)

@[simp] theorem setExchange_calls : (b.setExchange x e).calls = b.calls := rfl

@[simp] theorem setExchange_next : (b.setExchange x e).next = b.next := rfl

theorem exchange_setExchange :
    (b.setExchange x e).exchange y =
      if y = x ∧ x < b.exchanges.length then e else b.exchange y := by
  unfold exchange setExchange
  rw [List.getD_eq_getElem?_getD, List.getD_eq_getElem?_getD, List.getElem?_set]
  by_cases same : x = y
  · subst same
    by_cases there : x < b.exchanges.length
    · simp [there]
    · simp [there]
  · simp [same, Ne.symm same]

@[simp] theorem observe_exchange (o : Observation) : (b.observe o).exchange y = b.exchange y := rfl

@[simp] theorem observe_exchanges (o : Observation) : (b.observe o).exchanges = b.exchanges := rfl

@[simp] theorem observe_calls (o : Observation) : (b.observe o).calls = b.calls := rfl

end Set

/-- A channel that is not gone has its place in the list. -/
theorem lt_of_not_dropped {b : Switchboard} {x : Nat}
    (there : (b.exchange x).dropped = false) : x < b.exchanges.length := by
  by_cases inside : x < b.exchanges.length
  · exact inside
  · simp [exchange, inside] at there

/-! ### Calls are resolved -/

section Resolve

variable (b : Switchboard) (status : CallStatus Response)

theorem resolveAll_eq (calls : List Nat) :
    b.resolveAll calls status =
      { b with calls := (b.resolveAll calls status).calls } := by
  induction calls generalizing b with
  | nil => rfl
  | cons call rest ih =>
      unfold resolveAll at ih ⊢
      rw [List.foldl_cons, ih]
      rfl

@[simp] theorem resolveAll_exchanges (calls : List Nat) :
    (b.resolveAll calls status).exchanges = b.exchanges := by
  rw [resolveAll_eq]

@[simp] theorem resolveAll_exchange (calls : List Nat) (y : Nat) :
    (b.resolveAll calls status).exchange y = b.exchange y := by
  unfold exchange
  rw [resolveAll_exchanges]

@[simp] theorem resolveAll_next (calls : List Nat) :
    (b.resolveAll calls status).next = b.next := by
  rw [resolveAll_eq]

theorem resolve_getElem? (call k : Nat) :
    (b.resolve call status).calls[k]? =
      b.calls[k]?.map fun c => if k = call then { c with status } else c := by
  unfold resolve
  rw [List.getElem?_modify]
  by_cases same : call = k
  · subst same
    cases b.calls[call]? <;> simp
  · simp [same, Ne.symm same]

/-- Resolving calls changes their status and nothing else. -/
theorem resolveAll_getElem? (calls : List Nat) (k : Nat) :
    (b.resolveAll calls status).calls[k]? =
      b.calls[k]?.map fun c => if k ∈ calls then { c with status } else c := by
  induction calls generalizing b with
  | nil => simp [resolveAll]
  | cons call rest ih =>
      have step : b.resolveAll (call :: rest) status =
          (b.resolve call status).resolveAll rest status := rfl
      rw [step, ih, resolve_getElem?]
      cases b.calls[k]? with
      | none => rfl
      | some c =>
          by_cases later : k ∈ rest
          · by_cases here : k = call <;> simp [here, later]
          · simp [later]

theorem resolveAll_length (calls : List Nat) :
    (b.resolveAll calls status).calls.length = b.calls.length := by
  induction calls generalizing b with
  | nil => rfl
  | cons call rest ih =>
      have step : b.resolveAll (call :: rest) status =
          (b.resolve call status).resolveAll rest status := rfl
      rw [step, ih]
      simp [resolve]

end Resolve

end Switchboard

end RpcLink
