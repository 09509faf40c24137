import RpcLink.Proofs.Exchange.Run
import RpcLink.Proofs.Native.Traffic

/-!
How the calls of a switchboard stand to what crossed the ports. The numbers of the requests that
were posted increase, every call that was not withdrawn had its request posted, and it is answered
by the first response to it that was taken behind that, from the port to which it was posted.
-/

namespace RpcLink.Native

/-- The number of a message that is a request. -/
def idOf (message : Json) : Option UInt64 := (Request.decode message).toOption.map Request.id

/-- The number of the request that is posted. -/
def Crossing.id? : Crossing → Option UInt64
  | .posted _ _ message => idOf message
  | .received .. => none

/-- The response to a request with a number that is taken from a connection. -/
def answerTo (link : Nat) (id : UInt64) : Crossing → Option Response
  | .received l message =>
    match Response.ofFrame message with
    | .ok r => if l = link ∧ r.id = some id then some r else none
    | .error _ => none
  | .posted .. => none

/-- At a place of the traffic a task posted a request with a number. -/
def PostedAt (τ : List Crossing) (p task link : Nat) (id : UInt64) : Prop :=
  ∃ message, τ[p]? = some (.posted task link message) ∧ idOf message = some id

/-- No response to a request is taken behind the place at which it was posted. -/
def Unanswered (τ : List Crossing) (p link : Nat) (id : UInt64) : Prop :=
  ∀ i x, p < i → τ[i]? = some x → answerTo link id x = none

/-- The first response to a request behind the place at which it was posted. -/
structure FirstAnswer (τ : List Crossing) (p q link : Nat) (id : UInt64) (r : Response) :
    Prop where
  later : p < q
  answer : ∃ x, τ[q]? = some x ∧ answerTo link id x = some r
  first : ∀ i x, p < i → i < q → τ[i]? = some x → answerTo link id x = none

theorem answerTo_eq_some_iff {link : Nat} {id : UInt64} {x : Crossing} {r : Response} :
    answerTo link id x = some r ↔
      ∃ message, x = .received link message ∧ Response.ofFrame message = .ok r ∧
        r.id = some id := by
  cases x with
  | posted task l message => simp [answerTo]
  | received l message =>
      cases read : Response.ofFrame message with
      | error e => simp [answerTo, read]
      | ok s =>
          simp only [answerTo, read, Option.ite_none_right_eq_some, Option.some.injEq,
            Crossing.received.injEq]
          constructor
          · rintro ⟨⟨rfl, number⟩, rfl⟩
            exact ⟨message, ⟨rfl, rfl⟩, read, number⟩
          · rintro ⟨m, ⟨rfl, rfl⟩, read', number⟩
            obtain rfl := Except.ok.inj (read.symm.trans read')
            exact ⟨⟨rfl, number⟩, rfl⟩

/-! ### Traffic that goes on -/

section Append

variable {τ σ : List Crossing} {p q task link : Nat} {id : UInt64} {r : Response}

theorem getElem?_append_of_some {i : Nat} {x : Crossing} (found : τ[i]? = some x) :
    (τ ++ σ)[i]? = some x := by
  obtain ⟨inside, -⟩ := List.getElem?_eq_some_iff.mp found
  rw [List.getElem?_append_left inside, found]

theorem PostedAt.append (posted : PostedAt τ p task link id) :
    PostedAt (τ ++ σ) p task link id := by
  obtain ⟨message, found, number⟩ := posted
  exact ⟨message, getElem?_append_of_some found, number⟩

theorem FirstAnswer.append (answers : FirstAnswer τ p q link id r) :
    FirstAnswer (τ ++ σ) p q link id r := by
  obtain ⟨later, ⟨x, found, answer⟩, first⟩ := answers
  obtain ⟨inside, -⟩ := List.getElem?_eq_some_iff.mp found
  refine ⟨later, ⟨x, getElem?_append_of_some found, answer⟩, fun i y after before there => ?_⟩
  rw [List.getElem?_append_left (Nat.lt_trans before inside)] at there
  exact first i y after before there

theorem getElem?_concat_eq_some {x y : Crossing} {i : Nat} (found : (τ ++ [x])[i]? = some y) :
    τ[i]? = some y ∨ i = τ.length ∧ y = x := by
  rcases Nat.lt_trichotomy i τ.length with less | rfl | more
  · rw [List.getElem?_append_left less] at found
    exact .inl found
  · rw [List.getElem?_concat_length] at found
    exact .inr ⟨rfl, (Option.some.inj found).symm⟩
  · rw [List.getElem?_eq_none (by simp; omega)] at found
    cases found

/-- What is no response to a request does not answer it. -/
theorem Unanswered.concat {x : Crossing} (open_ : Unanswered τ p link id)
    (other : answerTo link id x = none) : Unanswered (τ ++ [x]) p link id := by
  intro i y after found
  rcases getElem?_concat_eq_some found with before | ⟨-, rfl⟩
  · exact open_ i y after before
  · exact other

/-- The first response to a request answers it. -/
theorem Unanswered.answered {x : Crossing} (open_ : Unanswered τ p link id)
    (inside : p < τ.length) (answer : answerTo link id x = some r) :
    FirstAnswer (τ ++ [x]) p τ.length link id r := by
  refine ⟨inside, ⟨x, List.getElem?_concat_length, answer⟩, fun i y after before found => ?_⟩
  rw [List.getElem?_append_left before] at found
  exact open_ i y after found

theorem PostedAt.lt_length (posted : PostedAt τ p task link id) : p < τ.length := by
  obtain ⟨message, found, -⟩ := posted
  exact (List.getElem?_eq_some_iff.mp found).1

end Append

/-! ### Accounts -/

/-- The request of a call was posted, and the call waits for the first answer to it or has it. -/
def Followed (τ : List Crossing) (c : Call) : Prop :=
  ∃ p task, PostedAt τ p task c.exchange c.id ∧
    (c.status = .waiting → Unanswered τ p c.exchange c.id) ∧
    ∀ r, c.status = .answered r → ∃ q, FirstAnswer τ p q c.exchange c.id r

/-- The calls of a switchboard stand as the traffic tells. -/
structure Accounted (b : Switchboard) (τ : List Crossing) : Prop where
  consistent : b.Consistent b.calls.length
  ordered : τ.Pairwise fun x y => ∀ i j, x.id? = some i → y.id? = some j → i < j
  numbered : ∀ {task link message}, .posted task link message ∈ τ →
    ∃ id, idOf message = some id ∧ id.toNat ≤ b.calls.length
  /-- Calls that were not withdrawn had their requests posted. -/
  followed : ∀ {k : Nat} {c : Call}, b.calls[k]? = some c → c.status ≠ .orphaned → Followed τ c

/-- Calls stay where they are, and none is withdrawn. -/
def Extends (b b' : Switchboard) : Prop :=
  ∀ {k : Nat} {c : Call}, b.calls[k]? = some c →
    ∃ d : Call, b'.calls[k]? = some d ∧ d.exchange = c.exchange ∧ d.id = c.id ∧
      (c.status ≠ .orphaned → d.status ≠ .orphaned)

theorem Extends.refl (b : Switchboard) : Extends b b :=
  fun found => ⟨_, found, rfl, rfl, id⟩

theorem accounted_empty : Accounted {} [] where
  consistent := Switchboard.consistent_empty
  ordered := .nil
  numbered := by simp
  followed := by simp

theorem id?_request (task link : Nat) (request : Request) :
    Crossing.id? (.posted task link request.toJson.sorted) = some request.id := by
  simp [Crossing.id?, idOf, Request.decode_toJson_sorted, Except.toOption]

/-- A crossing that is no answer to a call changes nothing about it. -/
theorem Followed.concat {τ : List Crossing} {c : Call} {x : Crossing} (followed : Followed τ c)
    (other : c.status = .waiting → answerTo c.exchange c.id x = none) : Followed (τ ++ [x]) c := by
  obtain ⟨p, task, posted, waits, answered⟩ := followed
  refine ⟨p, task, posted.append, fun waiting => (waits waiting).concat (other waiting),
    fun r was => ?_⟩
  obtain ⟨q, answers⟩ := answered r was
  exact ⟨q, answers.append⟩

/-- A call that waits is answered. -/
theorem Followed.answered {τ : List Crossing} {c : Call} {x : Crossing} {r : Response}
    (followed : Followed τ c) (waiting : c.status = .waiting)
    (answer : answerTo c.exchange c.id x = some r) :
    Followed (τ ++ [x]) { c with status := .answered r } := by
  obtain ⟨p, task, posted, waits, -⟩ := followed
  refine ⟨p, task, posted.append, by simp, fun s same => ?_⟩
  obtain rfl := CallStatus.answered.inj same
  exact ⟨τ.length, (waits waiting).answered posted.lt_length answer⟩

/-- A call whose request was just posted waits. -/
theorem followed_posted (τ : List Crossing) (task link : Nat) {id : UInt64} {message : Json}
    (number : idOf message = some id) :
    Followed (τ ++ [.posted task link message]) { exchange := link, id } := by
  refine ⟨τ.length, task, ⟨message, List.getElem?_concat_length, number⟩,
    fun _ i y after found => ?_, by simp⟩
  rcases getElem?_concat_eq_some found with before | ⟨same, -⟩
  · have := (List.getElem?_eq_some_iff.mp before).1
    omega
  · omega

/-- What registering does that succeeds. -/
theorem registered_eq {b board : Switchboard} {x call : Nat} {method : String} {params : Json}
    {request : Request} (shared : (b.exchange x).ownNext = none)
    (registered : b.register x method params = (.ok (request, call), board)) :
    (b.exchange x).closed = none ∧ request.id = b.next ∧ call = b.calls.length ∧
      board.calls = b.calls ++ [{ exchange := x, id := b.next }] := by
  cases closed : (b.exchange x).closed with
  | some reason =>
      rw [Switchboard.register_of_closed closed] at registered
      cases registered
  | none =>
      rw [Switchboard.register_of_open shared closed] at registered
      cases registered
      exact ⟨rfl, rfl, rfl, rfl⟩

namespace Accounted

variable {b b' board : Switchboard} {τ : List Crossing}

theorem unchanged (h : Accounted b τ) : Accounted b τ ∧ Extends b b :=
  ⟨h, Extends.refl b⟩

/-- A number is posted once. -/
theorem eq_of_posted (h : Accounted b τ) {p p' task task' link link' : Nat} {id : UInt64}
    (posted : PostedAt τ p task link id) (posted' : PostedAt τ p' task' link' id) :
    p = p' ∧ task = task' ∧ link = link' := by
  obtain ⟨m, found, number⟩ := posted
  obtain ⟨m', found', number'⟩ := posted'
  obtain ⟨hp, at_p⟩ := List.getElem?_eq_some_iff.mp found
  obtain ⟨hp', at_p'⟩ := List.getElem?_eq_some_iff.mp found'
  have apart := List.pairwise_iff_getElem.mp h.ordered
  have same : p = p' := by
    rcases Nat.lt_trichotomy p p' with less | equal | more
    · have := apart p p' hp hp' less id id (by rw [at_p]; exact number)
        (by rw [at_p']; exact number')
      exact absurd this (UInt64.lt_irrefl id)
    · exact equal
    · have := apart p' p hp' hp more id id (by rw [at_p']; exact number')
        (by rw [at_p]; exact number)
      exact absurd this (UInt64.lt_irrefl id)
  subst same
  rw [found] at found'
  cases found'
  exact ⟨rfl, rfl, rfl⟩

/-- Calls that waited may be rejected by now. -/
theorem spare (h : Accounted b τ) {f : Nat → Call → Call}
    (consistent : b'.Consistent b'.calls.length)
    (count : b.calls.length ≤ b'.calls.length)
    (calls : ∀ k, b'.calls[k]? = b.calls[k]?.map (f k))
    (kept : ∀ k c, (f k c).exchange = c.exchange ∧ (f k c).id = c.id ∧
      ((f k c).status = c.status ∨
        c.status = .waiting ∧ ∃ reason, (f k c).status = .rejected reason)) :
    Accounted b' τ ∧ Extends b b' := by
  refine ⟨⟨consistent, h.ordered, fun member => ?_, fun {k d} found present => ?_⟩,
    fun {k c} found => ⟨f k c, ?_, (kept k c).1, (kept k c).2.1, fun present => ?_⟩⟩
  · obtain ⟨id, number, below⟩ := h.numbered member
    exact ⟨id, number, Nat.le_trans below count⟩
  · rw [calls, Option.map_eq_some_iff] at found
    obtain ⟨c, before, rfl⟩ := found
    obtain ⟨place, number, same | ⟨waited, reason, rejected⟩⟩ := kept k c
    · unfold Followed
      rw [place, number, same]
      exact h.followed before (same ▸ present)
    · obtain ⟨p, task, posted, -, -⟩ := h.followed before (by simp [waited])
      unfold Followed
      rw [place, number, rejected]
      exact ⟨p, task, posted, by simp, by simp⟩
  · rw [calls, found]
    rfl
  · obtain ⟨-, -, same | ⟨-, reason, rejected⟩⟩ := kept k c
    · rw [same]
      exact present
    · simp [rejected]

/-- Of what crosses next, a number is above those before it. -/
theorem ordered_concat (h : Accounted b τ) {x : Crossing}
    (above : ∀ i, x.id? = some i → b.calls.length < i.toNat) :
    (τ ++ [x]).Pairwise fun x y => ∀ i j, x.id? = some i → y.id? = some j → i < j := by
  refine List.pairwise_append.mpr ⟨h.ordered, List.pairwise_singleton _ _, ?_⟩
  intro y old z new i j hi hj
  rw [List.mem_singleton.mp new] at hj
  cases y with
  | received l m => cases hi
  | posted t l m =>
      obtain ⟨id, same, below⟩ := h.numbered old
      obtain rfl := Option.some.inj (same.symm.trans hi)
      exact UInt64.lt_iff_toNat_lt.mpr (Nat.lt_of_le_of_lt below (above j hj))

/-- A request is posted. -/
theorem post (h : Accounted b τ) (task : Nat) {x call : Nat} {method : String} {params : Json}
    {request : Request} (few : b.calls.length + 1 < 2 ^ 64)
    (there : (b.exchange x).dropped = false)
    (registered : b.register x method params = (.ok (request, call), board)) :
    Accounted board (τ ++ [.posted task x request.toJson.sorted]) ∧ Extends b board ∧
      board.calls[call]? = some { exchange := x, id := request.id } ∧
      PostedAt (τ ++ [.posted task x request.toJson.sorted]) τ.length task x request.id := by
  obtain ⟨opened, number, rfl, calls⟩ := registered_eq (h.consistent.shared x) registered
  have inOrder := h.consistent.register few there opened method params
  rw [registered] at inOrder
  have count : board.calls.length = b.calls.length + 1 := by simp [calls]
  have id_eq : request.id.toNat = b.calls.length + 1 := by
    rw [number]
    exact h.consistent.next_toNat few
  have message := id?_request task x request
  refine ⟨⟨by rw [count]; exact inOrder, ?_, ?_, ?_⟩, ?_, ?_,
    ⟨_, List.getElem?_concat_length, message⟩⟩
  · refine h.ordered_concat fun i same => ?_
    obtain rfl := Option.some.inj (message.symm.trans same)
    omega
  · intro t l m member
    rcases List.mem_append.mp member with old | new
    · obtain ⟨id, same, below⟩ := h.numbered old
      exact ⟨id, same, by omega⟩
    · cases List.mem_singleton.mp new
      exact ⟨request.id, message, by omega⟩
  · intro k c found present
    rw [calls, Switchboard.getElem?_append_call] at found
    rcases found with old | ⟨-, rfl⟩
    · exact (h.followed old present).concat fun _ => rfl
    · rw [← number]
      exact followed_posted τ task x message
  · intro k c found
    exact ⟨c, by rw [calls, Switchboard.getElem?_append_call]; exact .inl found, rfl, rfl, id⟩
  · rw [calls, number]
    exact List.getElem?_concat_length

/-- A request is not posted after all. -/
theorem withdraw (h : Accounted b τ) {x call : Nat} {method : String} {params : Json}
    {request : Request} (few : b.calls.length + 1 < 2 ^ 64)
    (there : (b.exchange x).dropped = false)
    (registered : b.register x method params = (.ok (request, call), board)) :
    Accounted (board.forget x request.id).2 τ ∧ Extends b (board.forget x request.id).2 := by
  obtain ⟨opened, number, -, calls⟩ := registered_eq (h.consistent.shared x) registered
  have inOrder := h.consistent.register few there opened method params
  rw [registered] at inOrder
  have count : (board.forget x request.id).2.calls.length = b.calls.length + 1 := by
    rw [(board.shrinks_forget x request.id).calls_length_eq]
    simp [calls]
  -- The calls that there were have other numbers.
  have older : ∀ {k : Nat} {c : Call}, b.calls[k]? = some c →
      (board.forget x request.id).2.calls[k]? = some c := by
    intro k c found
    have below := h.consistent.id_lt_next few (List.mem_of_getElem? found)
    have other : ¬(c.exchange = x ∧ c.id = request.id ∧ c.status = .waiting) := by
      rintro ⟨-, same, -⟩
      rw [same, number] at below
      exact UInt64.lt_irrefl _ below
    rw [inOrder.forget_getElem?, calls, Switchboard.getElem?_append_call.mpr (.inl found),
      Option.map_some, if_neg other]
  refine ⟨⟨by rw [count]; exact inOrder.forget x request.id, h.ordered, ?_, ?_⟩,
    fun found => ⟨_, older found, rfl, rfl, id⟩⟩
  · intro t l m member
    obtain ⟨id, same, below⟩ := h.numbered member
    exact ⟨id, same, by omega⟩
  · intro k c found present
    rw [inOrder.forget_getElem?, calls, Option.map_eq_some_iff] at found
    obtain ⟨d, found, shape⟩ := found
    rcases Switchboard.getElem?_append_call.mp found with old | ⟨-, rfl⟩
    · have same := older old
      rw [inOrder.forget_getElem?, calls, found, Option.map_some, shape] at same
      obtain rfl := Option.some.inj same
      exact h.followed old present
    · rw [if_pos ⟨rfl, number.symm, rfl⟩] at shape
      rw [← shape] at present
      exact absurd rfl present

/-- What is taken from a connection posts nothing. -/
theorem of_received (h : Accounted b τ) {link : Nat} {message : Json}
    (consistent : b'.Consistent b'.calls.length) (count : b'.calls.length = b.calls.length)
    (followed : ∀ {k : Nat} {c : Call}, b'.calls[k]? = some c → c.status ≠ .orphaned →
      Followed (τ ++ [.received link message]) c) :
    Accounted b' (τ ++ [.received link message]) where
  consistent := consistent
  ordered := h.ordered_concat fun i number => by cases number
  numbered := by
    intro t l m member
    rw [count]
    rcases List.mem_append.mp member with old | new
    · exact h.numbered old
    · cases List.mem_singleton.mp new
  followed := followed

/-- A response is taken from a connection. -/
theorem deliver (h : Accounted b τ) {link : Nat} {message : Json} {r : Response}
    (read : Response.ofFrame message = .ok r) :
    Accounted (b.deliver link r).2 (τ ++ [.received link message]) ∧
      Extends b (b.deliver link r).2 := by
  have calls := h.consistent.deliver_getElem? link r
  have count := (b.shrinks_deliver link r).calls_length_eq
  refine ⟨h.of_received ?_ count fun {k d} found present => ?_, fun {k c} found => ?_⟩
  · rw [count]
    exact h.consistent.deliver link r
  · rw [calls, Option.map_eq_some_iff] at found
    obtain ⟨c, found, rfl⟩ := found
    by_cases hit : c.exchange = link ∧ r.id = some c.id ∧ c.status = .waiting
    · rw [if_pos hit]
      obtain ⟨place, number, waiting⟩ := hit
      refine (h.followed found (by simp [waiting])).answered waiting ?_
      exact answerTo_eq_some_iff.mpr ⟨message, by rw [place], read, number⟩
    · rw [if_neg hit] at present ⊢
      refine (h.followed found present).concat fun waiting => ?_
      have other : ¬(link = c.exchange ∧ r.id = some c.id) :=
        fun same => hit ⟨same.1.symm, same.2, waiting⟩
      simp [answerTo, read, other]
  · rw [calls, found, Option.map_some]
    refine ⟨_, rfl, ?_, ?_, fun present => ?_⟩
    · split <;> rfl
    · split <;> rfl
    · split
      · simp
      · exact present

/-- A message is taken from a connection. -/
theorem receive (h : Accounted b τ) (link : Nat) (message : Json) :
    Accounted (b.dispatch link (.message message)) (τ ++ [.received link message]) ∧
      Extends b (b.dispatch link (.message message)) := by
  unfold Switchboard.dispatch
  cases read : Response.ofFrame message with
  | error e =>
      dsimp only
      simp only [read]
      refine ⟨h.of_received (h.consistent.observe _) rfl fun found present => ?_, Extends.refl b⟩
      exact (h.followed found present).concat fun _ => by simp [answerTo, read]
  | ok r =>
      dsimp only
      simp only [read]
      exact h.deliver read

/-! ### Operations that give no answer -/

theorem settle (h : Accounted b τ) (call : Nat) :
    Accounted (b.settle call) τ ∧ Extends b (b.settle call) := by
  have count := (b.shrinks_settle call).calls_length_eq
  refine h.spare ?_ (Nat.le_of_eq count.symm) (b.settle_getElem? call) ?_
  · rw [count]
    exact h.consistent.settle call
  · exact fun k c => ⟨rfl, rfl, .inl rfl⟩

theorem poll (h : Accounted b τ) (call : Nat) :
    Accounted (b.poll call).2 τ ∧ Extends b (b.poll call).2 := by
  rcases b.poll_board call with same | settled
  · rw [same]
    exact h.unchanged
  · rw [settled]
    exact h.settle call

theorem openExchange (h : Accounted b τ) :
    Accounted b.openExchange τ ∧ Extends b b.openExchange := by
  refine h.spare (f := fun _ c => c) h.consistent.openExchange (Nat.le_refl _) ?_ ?_
  · intro k
    rw [Option.map_id']
    rfl
  · exact fun k c => ⟨rfl, rfl, .inl rfl⟩

theorem abort (h : Accounted b τ) {x : Nat} (inside : x < b.exchanges.length) (reason : String) :
    Accounted (b.abort x reason).2 τ ∧ Extends b (b.abort x reason).2 := by
  have count := b.abort_calls_length x reason
  refine h.spare ?_ (Nat.le_of_eq count.symm) (h.consistent.abort_getElem? x reason) ?_
  · rw [count]
    exact h.consistent.abort inside reason
  · intro k c
    split
    · rename_i hit
      exact ⟨rfl, rfl, .inr ⟨hit.2, reason, rfl⟩⟩
    · exact ⟨rfl, rfl, .inl rfl⟩

end Accounted

end RpcLink.Native
