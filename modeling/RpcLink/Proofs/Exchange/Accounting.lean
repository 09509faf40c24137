import Mathlib.Algebra.BigOperators.Group.Finset.Basic
import RpcLink.Proofs.Exchange.Numbering

/-!
The books of a switchboard. What was counted of the channels agrees with what those were told who
delivered responses and closed channels, and every call that was registered is accounted for: it
waits, it left its channel with an answer or without one, or its channel is gone.
-/

namespace RpcLink

/-- How many calls wait on a channel, as long as it is there. -/
def Exchange.pending (e : Exchange) : Nat := if e.dropped then 0 else e.waiting.length

theorem Exchange.pending_of_there {e : Exchange} (there : e.dropped = false) :
    e.pending = e.waiting.length := by simp [pending, there]

theorem Tally.ofList_append (os : List Observation) (o : Observation) :
    ofList (os ++ [o]) = (ofList os).count o := List.foldl_append ..

/-- The calls of which no two have the same number are one fewer without one of them. -/
theorem Exchange.length_filter_id {waiting : List (UInt64 × Nat)} {id : UInt64} {k : Nat}
    (distinct : (waiting.map Prod.fst).Nodup) (waits : (id, k) ∈ waiting) :
    waiting.length = (waiting.filter fun w => w.1 != id).length + 1 := by
  have ids :
      (waiting.filter fun w => w.1 != id).map Prod.fst = (waiting.map Prod.fst).erase id := by
    rw [distinct.erase_eq_filter, List.filter_map]
    rfl
  have member : id ∈ waiting.map Prod.fst := List.mem_map_of_mem waits
  have one := List.length_erase_add_one member
  rw [← ids, List.length_map, List.length_map] at one
  exact one.symm

namespace Switchboard

/-- How many calls wait on the channels that are there. -/
def pending (b : Switchboard) : Nat :=
  ∑ x ∈ Finset.range b.exchanges.length, (b.exchange x).pending

namespace Answer

/-- A call was registered. -/
def registrations : Answer → Nat
  | .registered (.ok _) => 1
  | _ => 0

/-- A call waited for the response. -/
def hits : Answer → Nat
  | .delivered true => 1
  | _ => 0

/-- Nobody waited for the response. -/
def strays : Answer → Nat
  | .delivered false => 1
  | _ => 0

/-- The calls that were rejected. -/
def rejections : Answer → Nat
  | .aborted rejected => rejected
  | _ => 0

/-- A call was forgotten. -/
def withdrawals : Answer → Nat
  | .forgotten true => 1
  | _ => 0

end Answer

/-- What was told in a run, added up. -/
def total (f : Answer → Nat) (told : List (Action × Answer)) : Nat := (told.map fun t => f t.2).sum

/-- The channel that an action was to close, if it was there. -/
def abortedBy : Action × Answer → Option Nat
  | (.abort x _, .aborted _) => some x
  | _ => none

/-- The channels that were closed, each once. -/
def aborted (told : List (Action × Answer)) : Finset Nat := (told.filterMap abortedBy).toFinset

/-- Whether an action closes a channel that was open, as a number. -/
def closes (b : Switchboard) : Action → Nat
  | .abort x _ => if (b.exchange x).dropped = false ∧ (b.exchange x).closed = none then 1 else 0
  | _ => 0

/-- How many calls an action leaves with nobody who could answer them. -/
def strands (b : Switchboard) : Action → Nat
  | .drop x => (b.exchange x).pending
  | _ => 0

/-- How many calls are left so in a run. -/
def stranded (b : Switchboard) : List Action → Nat
  | [] => 0
  | a :: as => b.strands a + (b.act a).stranded as

theorem total_append (f : Answer → Nat) (told : List (Action × Answer)) (a : Action) (t : Answer) :
    total f (told ++ [(a, t)]) = total f told + f t := by
  simp [total]

theorem aborted_append (told : List (Action × Answer)) (t : Action × Answer) :
    aborted (told ++ [t]) =
      match abortedBy t with
      | some x => insert x (aborted told)
      | none => aborted told := by
  ext x
  cases aimed : abortedBy t with
  | none => simp [aborted, aimed]
  | some y => simp [aborted, aimed, eq_comm]

theorem mem_aborted_append {told : List (Action × Answer)} {t : Action × Answer} {x : Nat} :
    x ∈ aborted (told ++ [t]) ↔ x ∈ aborted told ∨ abortedBy t = some x := by
  rw [aborted_append]
  cases abortedBy t <;> simp [or_comm, eq_comm]

section Act

variable {b : Switchboard} {a : Action}

theorem act_of_present (present : ¬ a.channel?.any fun x => (b.exchange x).dropped) :
    b.act a = b.perform a := if_neg present

theorem answer_of_gone (gone : a.channel?.any fun x => (b.exchange x).dropped) :
    b.answer a = .gone := if_pos gone

theorem abortedBy_answer {x : Nat} :
    abortedBy (a, b.answer a) = some x ↔
      ∃ reason, a = .abort x reason ∧ (b.exchange x).dropped = false := by
  cases a with
  | abort y reason =>
      cases gone : (b.exchange y).dropped with
      | true =>
          rw [answer_of_gone (by simp [Action.channel?, gone])]
          constructor
          · intro aimed
            cases aimed
          · rintro ⟨_, ⟨⟩, there⟩
            rw [gone] at there
            cases there
      | false =>
          have told : b.answer (.abort y reason) = .aborted (b.abort y reason).1 := by
            simp [answer, Action.channel?, gone]
          rw [told]
          constructor
          · rintro ⟨⟩
            exact ⟨reason, rfl, gone⟩
          · rintro ⟨_, ⟨⟩, -⟩
            rfl
  | _ => simp [abortedBy]

theorem closes_of_not_aborted (spared : abortedBy (a, b.answer a) = none) : b.closes a = 0 := by
  cases a with
  | abort x reason =>
      have gone : ¬ (b.exchange x).dropped = false := fun there => by
        rw [abortedBy_answer.mpr ⟨reason, rfl, there⟩] at spared
        cases spared
      simp [closes, gone]
  | _ => rfl

end Act

/-! ### What is counted -/

/-- What an action adds to the tally is what the one who does it is told. -/
theorem act_tally (b : Switchboard) (a : Action) :
    Tally.ofList (b.act a).log =
      { Tally.ofList b.log with
        unmatched := (Tally.ofList b.log).unmatched + (b.answer a).strays
        closed := (Tally.ofList b.log).closed + b.closes a
        rejected := (Tally.ofList b.log).rejected + (b.answer a).rejections } := by
  by_cases gone : a.channel?.any fun x => (b.exchange x).dropped
  · have nothing : b.closes a = 0 := by
      cases a <;> simp_all [closes, Action.channel?]
    rw [act, if_pos gone, answer_of_gone gone, nothing]
    rfl
  rw [act_of_present gone]
  unfold answer
  rw [if_neg gone]
  have settled : ∀ {b' call}, b' = b ∨ b' = b.settle call → b'.log = b.log := by
    rintro b' call (rfl | rfl) <;> rfl
  cases a with
  | openExchange => rfl
  | draw => rfl
  | register x method params => simp only [perform, register_log]; rfl
  | deliver x r =>
      simp only [perform, deliver_notes, deliver_matched]
      cases aimed : b.addressee x r with
      | some k => simp [aimed, closes, Answer.strays, Answer.rejections]
      | none =>
          simp [aimed, closes, Answer.strays, Answer.rejections, Tally.ofList_append, Tally.count]
  | abort x reason =>
      have there : (b.exchange x).dropped = false := by simpa [Action.channel?] using gone
      cases closed : (b.exchange x).closed with
      | some first => simp [perform, abort_of_closed closed, closes, closed, Answer.strays,
          Answer.rejections]
      | none =>
          simp only [perform, abort_of_open closed, observe, resolveAll_log, Tally.ofList_append]
          simp [setExchange, Tally.count, closes, closed, there, Answer.strays, Answer.rejections]
  | forget x id => simp only [perform, forget_log]; rfl
  | drop x => simp only [perform, drop, resolveAll_log]; rfl
  | poll call => simp only [perform, settled (b.poll_board call)]; rfl
  | expire call ns => simp only [perform, settled (b.expire_board call ns)]; rfl
  | forsake call => rfl

/-! ### Who waits -/

/-- Where one channel changes, the calls that wait change by those that wait there. -/
theorem pending_change {b d : Switchboard} {x : Nat}
    (count : d.exchanges.length = b.exchanges.length) (inside : x < b.exchanges.length)
    (others : ∀ y, y ≠ x → (d.exchange y).pending = (b.exchange y).pending) :
    d.pending + (b.exchange x).pending = b.pending + (d.exchange x).pending := by
  have member : x ∈ Finset.range b.exchanges.length := Finset.mem_range.mpr inside
  have rest : ∑ y ∈ (Finset.range b.exchanges.length).erase x, (d.exchange y).pending =
      ∑ y ∈ (Finset.range b.exchanges.length).erase x, (b.exchange y).pending :=
    Finset.sum_congr rfl fun y other => others y (Finset.ne_of_mem_erase other)
  have before := Finset.add_sum_erase _ (fun y => (b.exchange y).pending) member
  have after := Finset.add_sum_erase _ (fun y => (d.exchange y).pending) member
  unfold Switchboard.pending
  rw [count]
  omega

section Pending

variable {n : Option Nat → Nat} {b : Switchboard} {x : Nat}

/-- Calls leave their channel, which is not yet gone. -/
theorem pending_setExchange (there : (b.exchange x).dropped = false) (e : Exchange)
    (calls : List Nat) (status : CallStatus Response) :
    ((b.setExchange x e).resolveAll calls status).pending + (b.exchange x).waiting.length =
      b.pending + e.pending := by
  have inside := lt_of_not_dropped there
  have change := pending_change (b := b) (d := (b.setExchange x e).resolveAll calls status)
    (by rw [resolveAll_exchanges]; exact List.length_set) inside fun y other => by
      rw [resolveAll_exchange, exchange_setExchange, if_neg fun here => other here.1]
  rwa [resolveAll_exchange, exchange_setExchange, if_pos ⟨rfl, inside⟩,
    Exchange.pending_of_there there] at change

theorem pending_take (h : b.Placed) (there : (b.exchange x).dropped = false) {id : UInt64} {k : Nat}
    (waits : (id, k) ∈ (b.exchange x).waiting) (status : CallStatus Response) :
    ((b.setExchange x { b.exchange x with
      waiting := (b.exchange x).waiting.filter fun w => w.1 != id }).resolveAll [k]
        status).pending + 1 = b.pending := by
  generalize shape : ({ b.exchange x with
    waiting := (b.exchange x).waiting.filter fun w => w.1 != id } : Exchange) = e
  have left : (b.exchange x).waiting.length = e.pending + 1 := by
    have stays : e.dropped = false := by rw [← shape]; exact there
    have fewer : e.waiting = (b.exchange x).waiting.filter fun w => w.1 != id := by rw [← shape]
    rw [Exchange.pending_of_there stays, fewer]
    exact Exchange.length_filter_id (h.distinct x) waits
  have change := pending_setExchange there e [k] status
  omega

theorem pending_empty (there : (b.exchange x).dropped = false) {e : Exchange}
    (empty : e.waiting = []) (calls : List Nat) (status : CallStatus Response) :
    ((b.setExchange x e).resolveAll calls status).pending + (b.exchange x).waiting.length =
      b.pending := by
  have nobody : e.pending = 0 := by simp [Exchange.pending, empty]
  rw [pending_setExchange there, nobody, Nat.add_zero]

/-- Nobody waits under the next number, so that one call more waits. -/
theorem pending_register (h : b.Numbered n) (few : n (b.source x) + 1 < 2 ^ 64)
    (there : (b.exchange x).dropped = false) (opened : (b.exchange x).closed = none)
    (method : String) (params : Json) :
    (b.register x method params).2.pending = b.pending + 1 := by
  have inside := lt_of_not_dropped there
  obtain ⟨id, registered, -, waiting⟩ := b.register_waiting method params opened
  obtain rfl : id = b.nextOf x := b.register_number x method params (Prod.ext registered rfl)
  have change := pending_change (b := b) (d := (b.register x method params).2)
    (b.register_exchanges_length x method params) inside fun y other => by
      obtain ⟨own, rest, shape, same⟩ := b.register_exchange x y method params
      rw [shape, same (.inl other)]
      rfl
  have present := (b.register_dropped x x method params).trans there
  rw [Exchange.pending_of_there there, Exchange.pending_of_there present, waiting,
    if_pos ⟨rfl, inside⟩, List.filter_eq_self.mpr (h.fresh few), List.length_append,
    List.length_singleton] at change
  omega

theorem pending_openExchange (b : Switchboard) (own : Bool) :
    (b.openExchange own).pending = b.pending := by
  have count : (b.openExchange own).exchanges.length = b.exchanges.length + 1 := List.length_append
  have others : ∀ y ∈ Finset.range b.exchanges.length,
      ((b.openExchange own).exchange y).pending = (b.exchange y).pending := by
    intro y inside
    rw [openExchange_exchange, if_neg (Nat.ne_of_lt (Finset.mem_range.mp inside))]
  unfold Switchboard.pending
  rw [count, Finset.sum_range_succ, openExchange_exchange, if_pos rfl, Finset.sum_congr rfl others]
  rfl

/-- A call that is registered waits from then on, and a call that no longer waits was answered,
rejected or forgotten, or is left on a channel that is gone. -/
theorem act_pending (h : b.Placed) (numbered : b.Numbered n) {a : Action}
    (few : ∀ s, n s + b.drawsFrom s a < 2 ^ 64) :
    b.pending + (b.answer a).registrations =
      (b.act a).pending + (b.answer a).hits + (b.answer a).rejections +
        (b.answer a).withdrawals + b.strands a := by
  by_cases gone : a.channel?.any fun x => (b.exchange x).dropped
  · have nothing : b.strands a = 0 := by
      cases a <;> simp_all [strands, Action.channel?, Exchange.pending]
    rw [act, if_pos gone, answer_of_gone gone, nothing]
    rfl
  have there : ∀ x, a.channel? = some x → (b.exchange x).dropped = false := by
    intro x here
    simpa [here] using gone
  have settled : ∀ {b' call}, b' = b ∨ b' = b.settle call → b'.pending = b.pending := by
    rintro b' call (rfl | rfl) <;> rfl
  rw [act_of_present gone]
  unfold answer
  rw [if_neg gone]
  cases a with
  | openExchange => exact (pending_openExchange b false).symm
  | draw => rfl
  | register x method params =>
      simp only [perform, strands]
      cases closed : (b.exchange x).closed with
      | some reason => rw [register_of_closed closed]; rfl
      | none =>
          have first := few (b.source x)
          simp only [drawsFrom, there x rfl, closed, true_and, if_true] at first
          obtain ⟨id, registered, -⟩ := b.register_waiting method params closed
          rw [pending_register numbered first (there x rfl) closed, registered]
          rfl
  | deliver x r =>
      simp only [perform, strands]
      cases aimed : b.addressee x r with
      | none =>
          rw [deliver_of_stray aimed]
          rfl
      | some k =>
          obtain ⟨id, -, found, delivered⟩ := deliver_of_addressee aimed
          rw [delivered]
          exact (pending_take h (there x rfl) (Exchange.mem_of_lookup found) _).symm
  | abort x reason =>
      simp only [perform, strands]
      cases closed : (b.exchange x).closed with
      | some first => rw [abort_of_closed closed]; rfl
      | none =>
          rw [abort_of_open closed]
          exact (pending_empty (there x rfl)
            (e := { b.exchange x with closed := some reason, waiting := [] }) rfl _ _).symm
  | forget x id =>
      simp only [perform, strands]
      cases found : (b.exchange x).waiting.lookup id with
      | none => rw [forget_of_not_mem (Exchange.not_mem_of_lookup_none found)]; rfl
      | some k =>
          rw [forget_of_lookup found]
          exact (pending_take h (there x rfl) (Exchange.mem_of_lookup found) _).symm
  | drop x =>
      simp only [perform, strands, Exchange.pending_of_there (there x rfl)]
      exact (pending_empty (there x rfl)
        (e := { b.exchange x with waiting := [], dropped := true }) rfl _ _).symm
  | poll call => exact (settled (b.poll_board call)).symm
  | expire call ns => exact (settled (b.expire_board call ns)).symm
  | forsake call => rfl

end Pending

/-! ### The books -/

/-- The books agree with what was told so far, and `gone` calls were left with nobody who could
answer them. -/
structure Balanced (told : List (Action × Answer)) (gone : Nat) (b : Switchboard) : Prop where
  strays : (Tally.ofList b.log).unmatched = total Answer.strays told
  closed : (Tally.ofList b.log).closed = (aborted told).card
  mem_aborted : ∀ x, x ∈ aborted told ↔ (b.exchange x).closed.isSome
  rejected : (Tally.ofList b.log).rejected = total Answer.rejections told
  calls : total Answer.registrations told =
    b.pending + total Answer.hits told + total Answer.rejections told +
      total Answer.withdrawals told + gone

section Balanced

variable {told : List (Action × Answer)} {gone : Nat} {n : Option Nat → Nat} {b : Switchboard}

/-- A channel is closed exactly if it was before or the action closes it. -/
theorem act_isClosed (b : Switchboard) (a : Action) (x : Nat) :
    ((b.act a).exchange x).closed.isSome ↔
      (b.exchange x).closed.isSome ∨ ∃ reason, a = .abort x reason ∧
        (b.exchange x).dropped = false := by
  cases before : (b.exchange x).closed with
  | some reason =>
      have still : ((b.act a).exchange x).closed = some reason := run_closed before [a]
      simp [still]
  | none =>
      cases after : ((b.act a).exchange x).closed with
      | some reason =>
          obtain ⟨closing, there⟩ := act_closes before after
          simp [closing, there]
      | none =>
          simp only [Option.isSome_none, Bool.false_eq_true, false_or, false_iff]
          rintro ⟨reason, rfl, there⟩
          rw [act_abort_closed reason there before] at after
          cases after

theorem Balanced.act (h : Balanced told gone b) (placed : b.Placed) (numbered : b.Numbered n)
    {a : Action} (few : ∀ s, n s + b.drawsFrom s a < 2 ^ 64) :
    Balanced (told ++ [(a, b.answer a)]) (gone + b.strands a) (b.act a) := by
  have tally := b.act_tally a
  constructor
  case strays =>
    rw [tally, total_append, ← h.strays]
  case rejected =>
    rw [tally, total_append, ← h.rejected]
  case mem_aborted =>
    intro x
    rw [mem_aborted_append, abortedBy_answer, act_isClosed, h.mem_aborted]
  case closed =>
    rw [tally, aborted_append]
    show _ + b.closes a = _
    rw [h.closed]
    cases aimed : abortedBy (a, b.answer a) with
    | none => rw [closes_of_not_aborted aimed]; rfl
    | some x =>
        obtain ⟨reason, rfl, there⟩ := abortedBy_answer.mp aimed
        have known := h.mem_aborted x
        cases closed : (b.exchange x).closed with
        | some first =>
            have again : x ∈ aborted told := known.mpr (by simp [closed])
            simp [closes, closed, Finset.insert_eq_of_mem again]
        | none =>
            have first : x ∉ aborted told := fun member => by simpa [closed] using known.mp member
            simp [closes, closed, there, Finset.card_insert_of_notMem first]
  case calls =>
    have conserved := act_pending placed numbered few
    have before := h.calls
    simp only [total_append]
    omega

theorem Balanced.run (h : Balanced told gone b) (placed : b.Placed) (numbered : b.Numbered n)
    {as : List Action} (few : ∀ s, n s + b.drawnFrom s as < 2 ^ 64) :
    Balanced (told ++ b.answers as) (gone + b.stranded as) (b.run as) := by
  induction as generalizing told gone n b with
  | nil => simpa [answers, stranded, Switchboard.run] using h
  | cons a as ih =>
      have total : ∀ s, b.drawnFrom s (a :: as) = b.drawsFrom s a + (b.act a).drawnFrom s as :=
        fun _ => rfl
      have first : ∀ s, n s + b.drawsFrom s a < 2 ^ 64 := fun s => by
        have := few s
        rw [total] at this
        omega
      have rest : ∀ s, n s + b.drawsFrom s a + (b.act a).drawnFrom s as < 2 ^ 64 := fun s => by
        have := few s
        rw [total] at this
        omega
      have books := ih (h.act placed numbered first) (placed.act a).placed (numbered.act first) rest
      have told' :
          told ++ [(a, b.answer a)] ++ (b.act a).answers as = told ++ b.answers (a :: as) :=
        List.append_assoc ..
      have gone' : gone + b.strands a + (b.act a).stranded as = gone + b.stranded (a :: as) :=
        Nat.add_assoc ..
      rw [told', gone'] at books
      exact books

end Balanced

theorem balanced_opened (own : List Bool) : Balanced [] 0 (opened own) := by
  have openExchange : ∀ {b} (o : Bool), Balanced [] 0 b → Balanced [] 0 (b.openExchange o) := by
    intro b o h
    refine ⟨h.strays, h.closed, fun x => ?_, h.rejected, ?_⟩
    · have before : (b.exchange x).closed.isSome = false := by
        simpa [aborted] using h.mem_aborted x
      rw [openExchange_exchange]
      split
      · simp [aborted]
      · exact h.mem_aborted x
    · rw [pending_openExchange]
      exact h.calls
  have all : ∀ b, Balanced [] 0 b →
      Balanced [] 0 (own.foldl (fun b o => b.openExchange o) b) := by
    induction own with
    | nil => exact fun _ h => h
    | cons o own ih => exact fun b h => ih _ (openExchange o h)
  refine all {} ⟨rfl, rfl, fun x => ?_, rfl, rfl⟩
  simp [aborted, exchange]

/-- What is counted of channels agrees with what those are told who use them, however many channels
there are, with or without a sequence of numbers of their own. At every moment there were as many
unmatched responses as deliveries of which no call was found, as many closed channels as were there
when they were closed, and as many rejected calls as all closings told of. Each call that was
registered waits on a channel that is there, or was answered, rejected or forgotten, or waited on a
channel when that was gone. -/
theorem tally_accounts_for_calls (own : List Bool) (as : List Action)
    (few : ∀ s, (opened own).drawnFrom s as < 2 ^ 64) :
    let b := (opened own).run as
    let told := (opened own).answers as
    let tally := Tally.ofList b.log
    tally.unmatched = total Answer.strays told ∧
    tally.closed = (aborted told).card ∧
    (∀ x, x ∈ aborted told ↔ (b.exchange x).closed.isSome) ∧
    tally.rejected = total Answer.rejections told ∧
    total Answer.registrations told =
      b.pending + total Answer.hits told + tally.rejected + total Answer.withdrawals told +
        (opened own).stranded as := by
  intro b told tally
  have few' : ∀ s, 0 + (opened own).drawnFrom s as < 2 ^ 64 := by simpa using few
  have books := (balanced_opened own).run (placed_opened own) (numbered_opened own) few'
  rw [List.nil_append, Nat.zero_add] at books
  refine ⟨books.strays, books.closed, books.mem_aborted, books.rejected, ?_⟩
  rw [show tally.rejected = total Answer.rejections told from books.rejected]
  exact books.calls

/-- Two channels, one with a sequence of its own, and a third: of seven calls one is answered, one
forgotten, two are rejected, one waited on a channel that is gone, and two wait. Closing a channel
again counts for nothing. -/
theorem seven_calls_are_accounted_for :
    let as : List Action := [.register 0 "status" .null, .register 0 "echo" .null,
      .register 1 "status" .null, .deliver 0 (.success 1 .null), .deliver 0 (.success 1 .null),
      .forget 0 2, .openExchange, .register 2 "status" .null, .register 2 "echo" .null,
      .abort 2 "exited", .abort 2 "client stopped", .drop 1, .register 0 "status" .null,
      .register 0 "echo" .null, .deliver 0 { id := none }]
    let b := (opened [false, true]).run as
    let told := (opened [false, true]).answers as
    (∀ s, (opened [false, true]).drawnFrom s as < 2 ^ 64) ∧
      Tally.ofList b.log = { unmatched := 2, closed := 1, rejected := 2 } ∧
      total Answer.registrations told = b.pending + 1 + 2 + 1 + 1 ∧ b.pending = 2 := by
  intro as b told
  have few : ∀ s, (opened [false, true]).drawnFrom s as < 2 ^ 64 := fun s =>
    Nat.lt_of_le_of_lt (drawnFrom_le_length s _ as) (by decide)
  obtain ⟨-, -, -, -, calls⟩ := tally_accounts_for_calls [false, true] as few
  exact ⟨few, by decide, calls, by decide⟩

end Switchboard

end RpcLink
