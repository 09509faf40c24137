import RpcLink.Proofs.Exchange.Awaiting
import RpcLink.Proofs.Exchange.Closed

/-!
Responses that arrive on a channel one after the other. Which call a response is for can be told
before the first of them arrives, as long as no two have the same number; so the order in which they
come has no influence on what becomes of the calls.
-/

namespace RpcLink

/-- Taking other numbers off a channel does not hide a call. -/
theorem Exchange.lookup_filter {waiting : List (UInt64 × Nat)} {id : UInt64}
    {stays : UInt64 × Nat → Bool} (kept : ∀ w, w.1 = id → stays w = true) :
    (waiting.filter stays).lookup id = waiting.lookup id := by
  induction waiting with
  | nil => rfl
  | cons w rest ih =>
      cases stays? : stays w with
      | true => rw [List.filter_cons_of_pos stays?, List.lookup_cons, List.lookup_cons, ih]
      | false =>
          have elsewhere : (id == w.1) = false := beq_false_of_ne fun same => by
            rw [kept w same.symm] at stays?
            cases stays?
          rw [List.filter_cons_of_neg (by simp [stays?]), ih, List.lookup_cons, elsewhere]

namespace Switchboard

/-- The call that waits on a channel for a response. -/
def addressee (b : Switchboard) (x : Nat) (r : Response) : Option Nat :=
  r.id.bind fun id => (b.exchange x).waiting.lookup id

/-- Responses arrive on a channel, in order. -/
def arrivals (x : Nat) (rs : List Response) : List Action := rs.map (.deliver x)

/-- What comes of responses that arrived on a channel, told by the calls that waited before the
first of them. -/
structure Arrived (b : Switchboard) (x : Nat) (rs : List Response) (b' : Switchboard) : Prop where
  next : b'.next = b.next
  length_eq : b'.exchanges.length = b.exchanges.length
  here : b'.exchange x = { b.exchange x with
    waiting := (b.exchange x).waiting.filter fun w => rs.all fun r => r.id != some w.1 }
  elsewhere : ∀ {y}, y ≠ x → b'.exchange y = b.exchange y
  answered : ∀ {r k}, r ∈ rs → b.addressee x r = some k →
    b'.calls[k]? = b.calls[k]?.map fun c => { c with status := .answered r }
  spared : ∀ {k}, (∀ r ∈ rs, b.addressee x r ≠ some k) → b'.calls[k]? = b.calls[k]?
  log : b'.log = b.log ++
    (rs.filter fun r => (b.addressee x r).isNone).map fun r => .unmatched r.id

/-! ### One response -/

section One

variable {b : Switchboard} {x k : Nat} {r s : Response}

theorem addressee_eq_some_iff (h : b.Placed) :
    b.addressee x r = some k ↔ ∃ id, r.id = some id ∧ (id, k) ∈ (b.exchange x).waiting := by
  unfold addressee
  rw [Option.bind_eq_some_iff]
  refine exists_congr fun id => and_congr_right fun _ => ?_
  exact ⟨Exchange.mem_of_lookup, h.lookup_eq⟩

/-- Two responses for one call have the same number. -/
theorem id_eq_of_addressee (h : b.Placed) (first : b.addressee x r = some k)
    (second : b.addressee x s = some k) : ∃ id, r.id = some id ∧ s.id = some id := by
  obtain ⟨id, number, waits⟩ := (addressee_eq_some_iff h).mp first
  obtain ⟨id', number', waits'⟩ := (addressee_eq_some_iff h).mp second
  exact ⟨id, number, number'.trans (congrArg some (h.place_eq waits waits').2)⟩

theorem deliver_of_addressee (aimed : b.addressee x r = some k) :
    ∃ id, r.id = some id ∧ (b.exchange x).waiting.lookup id = some k ∧
      b.deliver x r =
        (true, (b.setExchange x { b.exchange x with
          waiting := (b.exchange x).waiting.filter fun w => w.1 != id }).resolveAll [k]
            (.answered r)) := by
  obtain ⟨id, number, found⟩ := Option.bind_eq_some_iff.mp aimed
  exact ⟨id, number, found, deliver_of_lookup number found⟩

theorem deliver_of_stray (stray : b.addressee x r = none) :
    b.deliver x r = (false, b.observe (.unmatched r.id)) := by
  unfold addressee at stray
  simp only [deliver, stray]

theorem deliver_matched (b : Switchboard) (x : Nat) (r : Response) :
    (b.deliver x r).1 = (b.addressee x r).isSome := by
  cases aimed : b.addressee x r with
  | none => rw [deliver_of_stray aimed]; rfl
  | some k =>
      obtain ⟨id, -, -, delivered⟩ := deliver_of_addressee aimed
      rw [delivered]
      rfl

theorem deliver_next (b : Switchboard) (x : Nat) (r : Response) :
    (b.deliver x r).2.next = b.next := by
  cases aimed : b.addressee x r with
  | none => rw [deliver_of_stray aimed]; rfl
  | some k =>
      obtain ⟨id, -, -, delivered⟩ := deliver_of_addressee aimed
      rw [delivered, resolveAll_next, setExchange_next]

theorem deliver_exchange_of_ne {y : Nat} (other : y ≠ x) :
    (b.deliver x r).2.exchange y = b.exchange y := by
  cases aimed : b.addressee x r with
  | none => rw [deliver_of_stray aimed]; rfl
  | some k =>
      obtain ⟨id, -, -, delivered⟩ := deliver_of_addressee aimed
      rw [delivered, resolveAll_exchange, exchange_setExchange, if_neg fun same => other same.1]

/-- A response takes its number off the channel, whether or not a call waits under it. -/
theorem deliver_exchange (b : Switchboard) (x : Nat) (r : Response) :
    (b.deliver x r).2.exchange x = { b.exchange x with
      waiting := (b.exchange x).waiting.filter fun w => r.id != some w.1 } := by
  have stays : (∀ w ∈ (b.exchange x).waiting, (r.id != some w.1) = true) → b.exchange x =
      { b.exchange x with waiting := (b.exchange x).waiting.filter fun w => r.id != some w.1 } := by
    intro others
    rw [List.filter_eq_self.mpr others]
  cases aimed : b.addressee x r with
  | none =>
      rw [deliver_of_stray aimed, observe_exchange]
      refine stays fun w member => bne_iff_ne.mpr fun number => ?_
      rw [addressee, number, Option.bind_some] at aimed
      exact Exchange.not_mem_of_lookup_none aimed w.2 member
  | some k =>
      obtain ⟨id, number, found, delivered⟩ := deliver_of_addressee aimed
      have same : (fun w : UInt64 × Nat => r.id != some w.1) = fun w => w.1 != id := by
        funext w
        rw [number, Bool.eq_iff_iff, bne_iff_ne, bne_iff_ne, Ne, Option.some.injEq, Ne, eq_comm]
      have inside := lt_of_mem_waiting (Exchange.mem_of_lookup found)
      rw [delivered, resolveAll_exchange, exchange_setExchange, if_pos ⟨rfl, inside⟩, same]

theorem deliver_call (b : Switchboard) (x : Nat) (r : Response) (j : Nat) :
    (b.deliver x r).2.calls[j]? = b.calls[j]?.map fun c =>
      if b.addressee x r = some j then { c with status := .answered r } else c := by
  cases aimed : b.addressee x r with
  | none =>
      rw [deliver_of_stray aimed, observe_calls]
      simp
  | some k =>
      obtain ⟨id, -, -, delivered⟩ := deliver_of_addressee aimed
      rw [delivered, resolveAll_getElem?, setExchange_calls]
      simp only [List.mem_singleton, Option.some.injEq, eq_comm]

theorem deliver_notes (b : Switchboard) (x : Nat) (r : Response) :
    (b.deliver x r).2.log =
      b.log ++ ([r].filter fun r => (b.addressee x r).isNone).map fun r => .unmatched r.id := by
  cases aimed : b.addressee x r with
  | none =>
      rw [deliver_of_stray aimed]
      simp [observe, aimed]
  | some k =>
      obtain ⟨id, -, -, delivered⟩ := deliver_of_addressee aimed
      rw [delivered, resolveAll_log]
      simp [setExchange, aimed]

/-- A response with another number, or with none, is for the same call as before. -/
theorem addressee_deliver (apart : s.id = r.id → s.id = none) :
    (b.deliver x r).2.addressee x s = b.addressee x s := by
  unfold addressee
  cases number : s.id with
  | none => rfl
  | some id =>
      rw [Option.bind_some, Option.bind_some, deliver_exchange]
      refine Exchange.lookup_filter fun w same => bne_iff_ne.mpr fun taken => ?_
      rw [taken, number, same] at apart
      cases apart rfl

end One

/-! ### Several responses -/

section Several

variable {b b' : Switchboard} {x : Nat} {r : Response} {rs rs' : List Response}

theorem distinct_cons :
    ((r :: rs).filterMap Response.id).Nodup ↔
      (∀ s ∈ rs, s.id = r.id → s.id = none) ∧ (rs.filterMap Response.id).Nodup := by
  cases number : r.id with
  | none => simp [number]
  | some id =>
      rw [List.filterMap_cons_some number, List.nodup_cons]
      refine and_congr_left fun _ => ?_
      simp only [List.mem_filterMap, not_exists, not_and]
      exact forall₂_congr fun s _ => ⟨fun other same => absurd same other, fun none same => by
        rw [none same] at same
        cases same⟩

theorem act_deliver (there : (b.exchange x).dropped = false) (r : Response) :
    b.act (.deliver x r) = (b.deliver x r).2 := act_of_there rfl there

/-- The responses that arrive after the first are for the calls they were for before it. -/
theorem Arrived.cons (h : b.Placed) (distinct : ((r :: rs).filterMap Response.id).Nodup)
    (rest : Arrived (b.deliver x r).2 x rs b') : Arrived b x (r :: rs) b' := by
  obtain ⟨apart, -⟩ := distinct_cons.mp distinct
  have same : ∀ s ∈ rs, (b.deliver x r).2.addressee x s = b.addressee x s :=
    fun s member => addressee_deliver (apart s member)
  -- No other response is for the call of the first one.
  have alone : ∀ {s k}, s ∈ rs → b.addressee x r = some k → b.addressee x s ≠ some k := by
    intro s k member first second
    obtain ⟨id, number, number'⟩ := id_eq_of_addressee h first second
    have := apart s member (number'.trans number.symm)
    rw [number'] at this
    cases this
  constructor
  case next => exact rest.next.trans (b.deliver_next x r)
  case length_eq => exact rest.length_eq.trans (b.shrinks_deliver x r).length_eq
  case here =>
    rw [rest.here, deliver_exchange]
    simp only [List.filter_filter, List.all_cons, Bool.and_comm]
  case elsewhere => exact fun other => (rest.elsewhere other).trans (deliver_exchange_of_ne other)
  case answered =>
    intro s k member aimed
    rcases List.mem_cons.mp member with rfl | later
    · have untouched : ∀ s' ∈ rs, (b.deliver x s).2.addressee x s' ≠ some k := by
        intro s' later
        rw [same s' later]
        exact alone later aimed
      rw [rest.spared untouched, deliver_call]
      simp only [aimed, if_true]
    · have notFirst : b.addressee x r ≠ some k := fun first => alone later first aimed
      rw [rest.answered later ((same s later).trans aimed), deliver_call]
      simp [notFirst]
  case spared =>
    intro k none
    have notFirst := none r List.mem_cons_self
    rw [rest.spared, deliver_call]
    · simp [notFirst]
    · intro s later
      rw [same s later]
      exact none s (List.mem_cons_of_mem _ later)
  case log =>
    have unmatched : (rs.filter fun s => ((b.deliver x r).2.addressee x s).isNone) =
        rs.filter fun s => (b.addressee x s).isNone :=
      List.filter_congr fun s later => by rw [same s later]
    rw [rest.log, unmatched, deliver_notes, List.append_assoc, ← List.map_append,
      ← List.filter_append]
    rfl

/-- What responses come to can be told by the calls that waited before the first of them. -/
theorem arrived (h : b.Placed) (there : (b.exchange x).dropped = false)
    (distinct : (rs.filterMap Response.id).Nodup) : Arrived b x rs (b.run (arrivals x rs)) := by
  induction rs generalizing b with
  | nil =>
      constructor
      case here => simp [arrivals, run]
      case log => simp [arrivals, run]
      case answered => simp
      all_goals intros; rfl
  | cons r rs ih =>
      have step : b.run (arrivals x (r :: rs)) = (b.deliver x r).2.run (arrivals x rs) := by
        rw [← act_deliver there r]
        rfl
      rw [step]
      exact .cons h distinct (ih (h.deliver x r).placed
        (((b.shrinks_deliver x r).dropped_eq x).trans there) (distinct_cons.mp distinct).2)

/-- Whoever hands a response over is told whether a call waited for it before the first of them. -/
theorem answers_arrivals (there : (b.exchange x).dropped = false)
    (distinct : (rs.filterMap Response.id).Nodup) :
    b.answers (arrivals x rs) =
      rs.map fun r => (.deliver x r, .delivered (b.addressee x r).isSome) := by
  induction rs generalizing b with
  | nil => rfl
  | cons r rs ih =>
      obtain ⟨apart, others⟩ := distinct_cons.mp distinct
      have told : b.answer (.deliver x r) = .delivered (b.addressee x r).isSome := by
        simp [answer, Action.channel?, there, deliver_matched]
      have rest := ih (((b.shrinks_deliver x r).dropped_eq x).trans there) others
      show (_, b.answer _) :: (b.act (.deliver x r)).answers (arrivals x rs) = _
      rw [told, act_deliver there, rest, List.map_cons]
      congr 1
      exact List.map_congr_left fun s later => by rw [addressee_deliver (apart s later)]

/-- The channels are known one by one. -/
theorem exchanges_eq_of_exchange_eq {d d' : Switchboard}
    (count : d'.exchanges.length = d.exchanges.length)
    (each : ∀ y, d'.exchange y = d.exchange y) : d'.exchanges = d.exchanges := by
  refine List.ext_getElem count fun y inside inside' => ?_
  have same := each y
  simpa [exchange, inside, inside'] using same

/-- Two orders of the same responses come to the same, but for the order of what is noted. -/
theorem Arrived.eq_of_perm {d d' : Switchboard} (first : Arrived b x rs d)
    (second : Arrived b x rs' d') (reordered : rs.Perm rs') : d' = { d with log := d'.log } := by
  have exchanges : d'.exchanges = d.exchanges := by
    refine exchanges_eq_of_exchange_eq (second.length_eq.trans first.length_eq.symm) fun y => ?_
    by_cases here : y = x
    · rw [here, second.here, first.here]
      simp only [reordered.all_eq]
    · rw [second.elsewhere here, first.elsewhere here]
  have calls : d'.calls = d.calls := by
    apply List.ext_getElem?
    intro k
    by_cases aimed : ∃ r ∈ rs, b.addressee x r = some k
    · obtain ⟨r, member, aimed⟩ := aimed
      rw [first.answered member aimed, second.answered (reordered.mem_iff.mp member) aimed]
    · simp only [not_exists, not_and] at aimed
      rw [first.spared aimed, second.spared fun r member => aimed r (reordered.mem_iff.mpr member)]
  have next := second.next.trans first.next.symm
  cases d
  cases d'
  simp_all

end Several

/-- The order in which responses arrive does not matter. Two orders of the same responses, of which
no two have the same number, leave the same channels and the same calls behind; each response is
told the same, namely whether a call waited for it before the first of them, and the same ones are
noted as unmatched. A call that waits is resolved, and by its response, exactly if that is among
them, and no other call is touched. -/
theorem arrival_order_is_irrelevant (own : List Bool) (as : List Action) {x : Nat}
    {rs rs' : List Response} (there : (((opened own).run as).exchange x).dropped = false)
    (distinct : (rs.filterMap Response.id).Nodup) (reordered : rs.Perm rs') :
    let b := (opened own).run as
    let d := b.run (arrivals x rs)
    let d' := b.run (arrivals x rs')
    d' = { d with log := d'.log } ∧
    (∃ matched : Response → Bool,
      b.answers (arrivals x rs) = rs.map (fun r => (.deliver x r, .delivered (matched r))) ∧
      b.answers (arrivals x rs') = rs'.map (fun r => (.deliver x r, .delivered (matched r))) ∧
      (∀ r, matched r = true ↔ ∃ id k, r.id = some id ∧ (id, k) ∈ (b.exchange x).waiting) ∧
      d.log = b.log ++ (rs.filter fun r => !matched r).map (fun r => .unmatched r.id) ∧
      d'.log = b.log ++ (rs'.filter fun r => !matched r).map (fun r => .unmatched r.id)) ∧
    d.log.Perm d'.log ∧
    (∀ id k, (id, k) ∈ (b.exchange x).waiting →
      (∀ r ∈ rs, r.id = some id → d.status? k = some (.answered r)) ∧
      (d.status? k = some .waiting ↔ ∀ r ∈ rs, r.id ≠ some id) ∧
      ((id, k) ∈ (d.exchange x).waiting ↔ ∀ r ∈ rs, r.id ≠ some id)) ∧
    ∀ k, (∀ id, (id, k) ∉ (b.exchange x).waiting) → d.calls[k]? = b.calls[k]? := by
  intro b d d'
  have h : b.Placed := ((placed_opened own).run as).placed
  have first : Arrived b x rs d := arrived h there distinct
  have distinct' : (rs'.filterMap Response.id).Nodup :=
    (reordered.filterMap _).nodup_iff.mp distinct
  have second : Arrived b x rs' d' := arrived h there distinct'
  have matched_iff : ∀ r, (b.addressee x r).isSome = true ↔
      ∃ id k, r.id = some id ∧ (id, k) ∈ (b.exchange x).waiting := by
    intro r
    simp only [Option.isSome_iff_exists, addressee_eq_some_iff h]
    exact exists_comm
  refine ⟨first.eq_of_perm second reordered, ⟨fun r => (b.addressee x r).isSome,
    answers_arrivals there distinct, answers_arrivals there distinct', matched_iff, ?_, ?_⟩, ?_,
    fun id k waits => ?_, fun k idle => ?_⟩
  · simpa using first.log
  · simpa using second.log
  · rw [first.log, second.log]
    exact ((reordered.filter _).map _).append_left _
  · have aimed : ∀ r, r.id = some id → b.addressee x r = some k :=
      fun r number => (addressee_eq_some_iff h).mpr ⟨id, number, waits⟩
    obtain ⟨c, found, -, -, status⟩ := h.call_of_mem waits
    have answered : ∀ r ∈ rs, r.id = some id → d.status? k = some (.answered r) := by
      intro r member number
      rw [status?, first.answered member (aimed r number), found]
      rfl
    refine ⟨answered, ⟨fun still r member number => ?_, fun none => ?_⟩, ?_⟩
    · rw [answered r member number] at still
      cases still
    · rw [status?, first.spared, found, Option.map_some, status]
      intro r member second
      obtain ⟨id', number, waits'⟩ := (addressee_eq_some_iff h).mp second
      exact none r member (number.trans (congrArg some (h.place_eq waits waits').2))
    · rw [first.here]
      simp [List.mem_filter, waits]
  · refine first.spared fun r _ aimed => ?_
    obtain ⟨id, -, waits⟩ := (addressee_eq_some_iff h).mp aimed
    exact idle id waits

/-- Three calls wait, one of them on another channel, and responses come for two of them, with one
that nobody waits for, one without a number before and another behind: in either order the calls on
the channel are answered, and the other one waits. -/
theorem reversed_responses_answer_alike :
    let as : List Action := [.register 0 "status" .null, .register 1 "status" .null,
      .register 0 "echo" .null]
    let rs : List Response := [.success 3 .null, { id := none }, .success 9 .null,
      .success 1 .null, { id := none }]
    let b := (opened [false, false]).run as
    (b.exchange 0).dropped = false ∧ (rs.filterMap Response.id).Nodup ∧ rs.Perm rs.reverse ∧
      (b.run (arrivals 0 rs)).status? 0 = some (.answered (.success 1 .null)) ∧
      (b.run (arrivals 0 rs)).status? 1 = some .waiting ∧
      b.run (arrivals 0 rs.reverse) = { b.run (arrivals 0 rs) with
        log := (b.run (arrivals 0 rs.reverse)).log } := by
  intro as rs b
  have there : (b.exchange 0).dropped = false := by decide
  have distinct : (rs.filterMap Response.id).Nodup := by decide
  have reordered : rs.Perm rs.reverse := rs.reverse_perm.symm
  obtain ⟨same, -, -, waits, others⟩ :=
    arrival_order_is_irrelevant [false, false] as there distinct reordered
  refine ⟨there, distinct, reordered, ?_, ?_, same⟩
  · exact (waits 1 0 (by decide)).1 _ (by simp [rs]) rfl
  · have waiting : (b.exchange 0).waiting = [(1, 0), (3, 2)] := by decide
    have elsewhere : ∀ id, (id, 1) ∉ (b.exchange 0).waiting := by simp [waiting]
    rw [status?, others 1 elsewhere]
    rfl

end Switchboard

end RpcLink
